import LeaseBroker.Proofs.Surroundings

/-!
What a program needs from the state in which it starts, so that it ends as is
wanted of it. A program is only as demanding as its calls are, and one reading
of the calls gives all the others: every answer may come (`demonic`), some
answer will do (`angelic`), or others may change the state before each call.
Programs are taken apart where they are put together (`wp_bind`, `wp_seq`), so
that a part needs to be looked at once.
-/
namespace LeaseBroker

namespace Program

variable {α β σ : Type}

/-- What each call needs, for its answer and the state after it to be as wanted. -/
abbrev Demands (σ : Type) := (c : Call) → (c.Answer → σ → Prop) → σ → Prop

/-- What `p` needs to end in `Q`. -/
def wp (D : Demands σ) (Q : α → σ → Prop) : Program α → σ → Prop
  | done a, s => Q a s
  | call c next, s => D c (fun r t => wp D Q (next r) t) s

/-- Demands that are met all the more where less is wanted. -/
class Monotone (D : Demands σ) : Prop where
  mono {c : Call} {K K' : c.Answer → σ → Prop} {s : σ} : (∀ r t, K r t → K' r t) → D c K s → D c K' s

variable {D : Demands σ} {Q : α → σ → Prop} {s : σ}

theorem wp_pure (a : α) : wp D Q (pure a) s ↔ Q a s := Iff.rfl

theorem wp_bind (p : Program α) (f : α → Program β) (Q : β → σ → Prop) :
    wp D Q (p >>= f) s ↔ wp D (fun a t => wp D Q (f a) t) p s := by
  show wp D Q (bind p f) s ↔ _
  suffices same : ∀ s, wp D Q (bind p f) s = wp D (fun a t => wp D Q (f a) t) p s by rw [same]
  induction p with
  | done a => intro s; rfl
  | call c next ih =>
    intro s
    show D c (fun r t => wp D Q (bind (next r) f) t) s = D c (fun r t => wp D _ (next r) t) s
    congr 1
    funext r t
    exact ih r t

theorem wp_mono [Monotone D] {Q' : α → σ → Prop} (weaker : ∀ a t, Q a t → Q' a t) {p : Program α} {s : σ}
    (h : wp D Q p s) : wp D Q' p s := by
  induction p generalizing s with
  | done a => exact weaker a s h
  | call c next ih => exact Monotone.mono (fun r t => ih r) h

/-- The rest of a program starts from what the first part comes to. -/
theorem wp_seq [Monotone D] {Q : β → σ → Prop} {mid : α → σ → Prop} {p : Program α} {f : α → Program β}
    (first : wp D mid p s) (rest : ∀ a t, mid a t → wp D Q (f a) t) : wp D Q (p >>= f) s :=
  (wp_bind p f Q).2 (wp_mono rest first)

/-! ## Calls that are made -/

/-- Every call that `p` may make is among `P`. -/
def Only (P : Call → Prop) : Program α → Prop
  | done _ => True
  | call c next => P c ∧ ∀ r, Only P (next r)

section Only
variable {P : Call → Prop}

theorem only_pure (a : α) : Only P (pure a : Program α) := trivial

theorem only_call {c : Call} (h : P c) : Only P (call c done) := ⟨h, fun _ => trivial⟩

theorem only_bind {p : Program α} {f : α → Program β} (first : Only P p) (rest : ∀ a, Only P (f a)) :
    Only P (p >>= f) := by
  show Only P (bind p f)
  induction p with
  | done a => exact rest a
  | call c next ih => exact ⟨first.1, fun r => ih r (first.2 r)⟩

/-- The calls of a part are calls of the whole. -/
theorem only_of_bind {p : Program α} {f : α → Program β} (h : Only P (p >>= f)) : Only P p := by
  replace h : Only P (bind p f) := h
  induction p with
  | done a => trivial
  | call c next ih => exact ⟨h.1, fun r => ih r (h.2 r)⟩

theorem only_of_forall (h : ∀ c, P c) (p : Program α) : Only P p := by
  induction p with
  | done a => trivial
  | call c next ih => exact ⟨h c, ih⟩

theorem only_mono {P' : Call → Prop} (wider : ∀ c, P c → P' c) {p : Program α} (h : Only P p) : Only P' p := by
  induction p with
  | done a => trivial
  | call c next ih => exact ⟨wider c h.1, fun r => ih r (h.2 r)⟩

/-- What all calls of a program keep holds when it ends. -/
theorem wp_of_only {I : σ → Prop} (keeps : ∀ c K s, P c → I s → (∀ r t, I t → K r t) → D c K s) {p : Program α}
    {s : σ} (h : Only P p) (start : I s) : wp D (fun _ => I) p s := by
  induction p generalizing s with
  | done a => exact start
  | call c next ih => exact keeps c _ s h.1 start fun r t kept => ih r (h.2 r) kept

end Only

/-! ## Results -/

/-- Whatever `p` is answered, it ends in `Q`. -/
def Yields (Q : α → Prop) : Program α → Prop
  | done a => Q a
  | call _ next => ∀ r, Yields Q (next r)

theorem yields_bind {P : α → Prop} {Q : β → Prop} {p : Program α} {f : α → Program β} (first : Yields P p)
    (rest : ∀ a, P a → Yields Q (f a)) : Yields Q (p >>= f) := by
  show Yields Q (bind p f)
  induction p with
  | done a => exact rest a first
  | call c next ih => exact fun r => ih r (first r)

theorem yields_of_forall {Q : α → Prop} (h : ∀ a, Q a) (p : Program α) : Yields Q p := by
  induction p with
  | done a => exact h a
  | call c next ih => exact ih

theorem yields_any (p : Program α) : Yields (fun _ => True) p := yields_of_forall (fun _ => trivial) p

theorem yields_mono {P Q : α → Prop} (weaker : ∀ a, P a → Q a) {p : Program α} (h : Yields P p) : Yields Q p := by
  induction p with
  | done a => exact weaker a h
  | call c next ih => exact fun r => ih r (h r)

theorem yields_map {Q : β → Prop} {f : α → β} {p : Program α} :
    Yields Q (p >>= fun a => pure (f a)) ↔ Yields (fun a => Q (f a)) p := by
  show Yields Q (bind p fun a => done (f a)) ↔ _
  induction p with
  | done a => rfl
  | call c next ih => exact forall_congr' ih

/-- What always comes of `p` comes of it with all else that is wanted. -/
theorem wp_yields [Monotone D] {P : α → Prop} {p : Program α} {s : σ} (h : wp D Q p s) (always : Yields P p) :
    wp D (fun a t => Q a t ∧ P a) p s := by
  induction p generalizing s with
  | done a => exact ⟨h, always⟩
  | call c next ih => exact Monotone.mono (fun r t wanted => ih r wanted (always r)) h

/-! ## Runs -/

/-- Which answers a call may get in a state, and the state that follows. -/
abbrev Replies (σ : Type) := (c : Call) → σ → c.Answer → σ → Prop

/-- A run of a program to its end. -/
inductive Runs (R : Replies σ) : Program α → σ → α → σ → Prop
  | done {a : α} {s : σ} : Runs R (done a) s a s
  | call {c : Call} {next : c.Answer → Program α} {s t u : σ} {r : c.Answer} {a : α} (reply : R c s r t)
      (rest : Runs R (next r) t a u) : Runs R (call c next) s a u

/-- Whatever the answers are. -/
def demonic (R : Replies σ) : Demands σ := fun c K s => ∀ r t, R c s r t → K r t

/-- With answers that can be given. -/
def angelic (R : Replies σ) : Demands σ := fun c K s => ∃ r t, R c s r t ∧ K r t

instance (R : Replies σ) : Monotone (demonic R) := ⟨fun weaker h r t reply => weaker r t (h r t reply)⟩

instance (R : Replies σ) : Monotone (angelic R) := ⟨fun weaker ⟨r, t, reply, h⟩ => ⟨r, t, reply, weaker r t h⟩⟩

/-- Every run ends in `Q`. -/
theorem wp_demonic_iff {R : Replies σ} {p : Program α} :
    wp (demonic R) Q p s ↔ ∀ a t, Runs R p s a t → Q a t := by
  constructor
  · intro h a t run
    induction run with
    | done => exact h
    | call reply _ ih => exact ih (h _ _ reply)
  · intro h
    induction p generalizing s with
    | done a => exact h a s .done
    | call c next ih => exact fun r t reply => ih r fun a u run => h a u (.call reply run)

theorem wp_demonic_and {R : Replies σ} {Q' : α → σ → Prop} {p : Program α} (h : wp (demonic R) Q p s)
    (h' : wp (demonic R) Q' p s) : wp (demonic R) (fun a t => Q a t ∧ Q' a t) p s :=
  wp_demonic_iff.2 fun a t run => ⟨wp_demonic_iff.1 h a t run, wp_demonic_iff.1 h' a t run⟩

/-- Some run ends in `Q`. -/
theorem wp_angelic_iff {R : Replies σ} {p : Program α} :
    wp (angelic R) Q p s ↔ ∃ a t, Runs R p s a t ∧ Q a t := by
  constructor
  · intro h
    induction p generalizing s with
    | done a => exact ⟨a, s, .done, h⟩
    | call c next ih =>
      obtain ⟨r, t, reply, h⟩ := h
      obtain ⟨a, u, run, holds⟩ := ih r h
      exact ⟨a, u, .call reply run, holds⟩
  · rintro ⟨a, t, run, holds⟩
    induction run with
    | done => exact holds
    | call reply _ ih => exact ⟨_, _, reply, ih holds⟩

/-- Where there is a reply to every call, every program comes to an end. -/
theorem exists_run {R : Replies σ} (total : ∀ c s, ∃ r t, R c s r t) (p : Program α) (s : σ) :
    ∃ a t, Runs R p s a t := by
  induction p generalizing s with
  | done a => exact ⟨a, s, .done⟩
  | call c next ih =>
    obtain ⟨r, t, reply⟩ := total c s
    obtain ⟨a, u, run⟩ := ih r t
    exact ⟨a, u, .call reply run⟩

theorem runs_wider {R R' : Replies σ} {p : Program α} {s t : σ} {a : α} (wider : ∀ c s r t, R c s r t → R' c s r t)
    (run : Runs R p s a t) : Runs R' p s a t := by
  induction run with
  | done => exact .done
  | call reply _ ih => exact .call (wider _ _ _ _ reply) ih

/-- What comes of more replies comes of fewer. -/
theorem wp_demonic_narrower {R R' : Replies σ} {p : Program α} (narrower : ∀ c s r t, R c s r t → R' c s r t)
    (h : wp (demonic R') Q p s) : wp (demonic R) Q p s :=
  wp_demonic_iff.2 fun a t run => wp_demonic_iff.1 h a t (runs_wider narrower run)

end Program

namespace Op

open Program (Demands Monotone)

variable {α β σ : Type} {D : Demands σ} {ok : α → σ → Prop} {fail : BrokerError → σ → Prop} {s : σ}

/-- What is wanted of a result, and of the state with it. -/
def Ended (ok : α → σ → Prop) (fail : BrokerError → σ → Prop) : Except BrokerError α → σ → Prop
  | .ok a, t => ok a t
  | .error e, t => fail e t

/-- What `p` needs to succeed in `ok` or to fail in `fail`. -/
def wp (D : Demands σ) (ok : α → σ → Prop) (fail : BrokerError → σ → Prop) (p : Op α) (s : σ) : Prop :=
  Program.wp D (Ended ok fail) p.run s

theorem wp_mono [Monotone D] {ok' : α → σ → Prop} {fail' : BrokerError → σ → Prop} {p : Op α}
    (h : wp D ok fail p s) (better : ∀ a t, ok a t → ok' a t) (worse : ∀ e t, fail e t → fail' e t) :
    wp D ok' fail' p s := by
  refine Program.wp_mono (fun r t ended => ?_) h
  cases r with
  | ok a => exact better a t ended
  | error e => exact worse e t ended

/-- Where the same is wanted of success and of failure, the result does not matter. -/
theorem wp_either {I : σ → Prop} {p : Op α} :
    wp D (fun _ => I) (fun _ => I) p s ↔ Program.wp D (fun _ => I) p.run s := by
  have same : (Ended (fun _ => I) fun _ => I : Except BrokerError α → σ → Prop) = fun _ => I := by
    funext r t
    cases r <;> rfl
  rw [wp, same]

theorem wp_bind {ok : β → σ → Prop} (p : Op α) (f : α → Op β) :
    wp D ok fail (p >>= f) s ↔ wp D (fun a t => wp D ok fail (f a) t) fail p s := by
  show Program.wp D (Ended ok fail) (p.run >>= ExceptT.bindCont f) s ↔ _
  rw [Program.wp_bind]
  refine iff_of_eq (congrArg (Program.wp D · p.run s) ?_)
  funext r t
  cases r <;> rfl

/-- The rest of an operation starts from what the first part succeeds in. What that fails in is a failure of the whole. -/
theorem wp_seq [Monotone D] {ok : β → σ → Prop} {mid : α → σ → Prop} {bad : BrokerError → σ → Prop} {p : Op α}
    {f : α → Op β} (first : wp D mid bad p s) (rest : ∀ a t, mid a t → wp D ok fail (f a) t)
    (failing : ∀ e t, bad e t → fail e t) : wp D ok fail (p >>= f) s :=
  (wp_bind p f).2 (wp_mono first rest failing)

theorem wp_lift (p : Program α) : wp D ok fail (liftM p) s ↔ Program.wp D ok p s := by
  show Program.wp D (Ended ok fail) (p >>= fun a => pure (.ok a)) s ↔ _
  rw [Program.wp_bind]
  rfl

theorem wp_ofStore (p : Program (Except StoreError α)) :
    wp D ok fail (ofStore p) s ↔ Program.wp D (fun r => Ended ok fail (r.mapError .store)) p s := by
  show Program.wp D _ (p >>= fun r => pure (r.mapError BrokerError.store)) s ↔ _
  rw [Program.wp_bind]
  rfl

theorem wp_ofSql (p : Program (Except SqlError α)) :
    wp D ok fail (ofSql p) s ↔ Program.wp D (fun r => Ended ok fail (r.mapError .sql)) p s := by
  show Program.wp D _ (p >>= fun r => pure (r.mapError BrokerError.sql)) s ↔ _
  rw [Program.wp_bind]
  rfl

theorem wp_ofRefusal (r : Except Refusal α) :
    wp D ok fail (ofRefusal r) s ↔ Ended ok fail (r.mapError .refused) s := Iff.rfl

theorem wp_passed {ok : β → σ → Prop} {r : Except Refusal α} {a : α} {f : α → Op β} (passed : r = .ok a)
    (rest : wp D ok fail (f a) s) : wp D ok fail (ofRefusal r >>= f) s := by
  subst passed
  exact (wp_bind ..).2 rest

theorem wp_checked {ok : β → σ → Prop} {r : Except Refusal α} {f : α → Op β}
    (refused : ∀ why, r = .error why → fail (.refused why) s) (rest : ∀ a, r = .ok a → wp D ok fail (f a) s) :
    wp D ok fail (ofRefusal r >>= f) s := by
  cases r with
  | ok a => exact (wp_bind ..).2 (rest a rfl)
  | error why => exact (wp_bind ..).2 (refused why rfl)

theorem wp_unless {ok : α → σ → Prop} {b : Bool} {why : Refusal} {rest : Unit → Op α} (refused : fail (.refused why) s)
    (passed : b = false → wp D ok fail (rest ()) s) : wp D ok fail (if b then refuse why >>= rest else rest ()) s := by
  cases b with
  | false => exact passed rfl
  | true => exact (wp_bind ..).2 refused

/-- Going on with what was looked for, unless there is none. -/
theorem wp_found [Monotone D] {ok : β → σ → Prop} {mid : Option α → σ → Prop} {bad : BrokerError → σ → Prop}
    {p : Op (Option α)} {f : Option α → Op β} (looking : wp D mid bad p s)
    (missing : ∀ t, mid none t → wp D ok fail (f none) t) (found : ∀ a t, mid (some a) t → wp D ok fail (f (some a)) t)
    (failing : ∀ e t, bad e t → fail e t) : wp D ok fail (p >>= f) s := by
  refine wp_seq looking (fun a? t looked => ?_) failing
  cases a? with
  | none => exact missing t looked
  | some a => exact found a t looked

theorem wp_both {R : Program.Replies σ} {ok' : α → σ → Prop} {fail' : BrokerError → σ → Prop} {p : Op α}
    (h : wp (Program.demonic R) ok fail p s) (h' : wp (Program.demonic R) ok' fail' p s) :
    wp (Program.demonic R) (fun a t => ok a t ∧ ok' a t) (fun e t => fail e t ∧ fail' e t) p s := by
  refine Program.wp_mono (fun r t both => ?_) (Program.wp_demonic_and h h')
  cases r <;> exact both

theorem wp_inContext (what : String) (p : Op α) :
    wp D ok fail (inContext what p) s ↔ wp D ok (fun e => fail (e.inContext what)) p s := by
  show Program.wp D _ (p.run >>= fun r => pure (r.mapError (BrokerError.inContext what))) s ↔ _
  rw [Program.wp_bind]
  refine iff_of_eq (congrArg (Program.wp D · p.run s) ?_)
  funext r t
  cases r <;> rfl

theorem wp_andAlways (p : Op α) (q : Program Unit) :
    wp D ok fail (andAlways p q) s ↔
      wp D (fun a t => Program.wp D (fun _ => ok a) q t) (fun e t => Program.wp D (fun _ => fail e) q t) p s := by
  show Program.wp D _ (p.run >>= fun r => q >>= fun _ => pure r) s ↔ _
  rw [Program.wp_bind]
  refine iff_of_eq (congrArg (Program.wp D · p.run s) ?_)
  funext r t
  cases r <;> exact propext (Program.wp_bind ..)

section
variable {ok : β → σ → Prop}

theorem wp_seq_andAlways [Monotone D] {mid : α → σ → Prop} {bad : BrokerError → σ → Prop} {p : Op α} {q : Program Unit}
    {f : α → Op β} (first : wp D mid bad p s)
    (rest : ∀ a t, mid a t → Program.wp D (fun _ u => wp D ok fail (f a) u) q t)
    (failing : ∀ e t, bad e t → Program.wp D (fun _ => fail e) q t) : wp D ok fail (andAlways p q >>= f) s :=
  (wp_bind ..).2 ((wp_andAlways p q).2 (wp_mono first rest failing))

theorem wp_bind_lift (p : Program α) (f : α → Op β) :
    wp D ok fail (liftM p >>= f) s ↔ Program.wp D (fun a t => wp D ok fail (f a) t) p s :=
  (wp_bind ..).trans (wp_lift p)

theorem wp_seq_lift [Monotone D] {mid : α → σ → Prop} {p : Program α} {f : α → Op β} (first : Program.wp D mid p s)
    (rest : ∀ a t, mid a t → wp D ok fail (f a) t) : wp D ok fail (liftM p >>= f) s :=
  (wp_bind_lift p f).2 (Program.wp_mono rest first)

theorem wp_bind_ofStore (p : Program (Except StoreError α)) (f : α → Op β) :
    wp D ok fail (ofStore p >>= f) s ↔
      Program.wp D (fun r => Ended (fun a t => wp D ok fail (f a) t) fail (r.mapError .store)) p s :=
  (wp_bind ..).trans (wp_ofStore p)

theorem wp_bind_ofSql (p : Program (Except SqlError α)) (f : α → Op β) :
    wp D ok fail (ofSql p >>= f) s ↔
      Program.wp D (fun r => Ended (fun a t => wp D ok fail (f a) t) fail (r.mapError .sql)) p s :=
  (wp_bind ..).trans (wp_ofSql p)

theorem wp_bind_inContext (what : String) (p : Op α) (f : α → Op β) :
    wp D ok fail (inContext what p >>= f) s ↔
      wp D (fun a t => wp D ok fail (f a) t) (fun e => fail (e.inContext what)) p s :=
  (wp_bind ..).trans (wp_inContext what p)

theorem wp_seq_inContext [Monotone D] {mid : α → σ → Prop} {bad : BrokerError → σ → Prop} {what : String} {p : Op α}
    {f : α → Op β} (first : wp D mid bad p s) (rest : ∀ a t, mid a t → wp D ok fail (f a) t)
    (failing : ∀ e t, bad e t → fail (e.inContext what) t) : wp D ok fail (inContext what p >>= f) s :=
  (wp_bind_inContext what p f).2 (wp_mono first rest failing)

end

/-! ## Calls that are made -/

/-- Every call that `p` may make is among `P`. -/
def Only (P : Call → Prop) (p : Op α) : Prop := Program.Only P p.run

section Only
variable {β : Type} {P : Call → Prop}

theorem only_pure (a : α) : Only P (pure a : Op α) := trivial

theorem only_throw (e : BrokerError) : Only P (throw e : Op α) := trivial

theorem only_refuse (why : Refusal) : Only P (refuse why : Op α) := trivial

/-- What would follow a refusal makes no calls. -/
theorem only_refused {why : Refusal} {rest : α → Op β} : Only P (refuse why >>= rest) := trivial

theorem only_ofRefusal (r : Except Refusal α) : Only P (ofRefusal r) := trivial

theorem only_bind {p : Op α} {f : α → Op β} (first : Only P p) (rest : ∀ a, Only P (f a)) : Only P (p >>= f) := by
  refine Program.only_bind first fun r => ?_
  cases r with
  | ok a => exact rest a
  | error e => trivial

/-- Something is looked for, and either it is there or there is none. -/
theorem only_found {p : Op (Option α)} {f : Option α → Op β} (first : Only P p) (missing : Only P (f none))
    (found : ∀ a, Only P (f (some a))) : Only P (p >>= f) := by
  refine only_bind first fun a? => ?_
  cases a? with
  | none => exact missing
  | some a => exact found a

theorem only_unless {b : Bool} {why : Refusal} {rest : Unit → Op β} (h : Only P (rest ())) :
    Only P (if b then refuse why >>= rest else rest ()) := by
  cases b
  · exact h
  · exact only_bind (only_refuse why) fun _ => h

theorem only_lift {p : Program α} (h : Program.Only P p) : Only P (liftM p : Op α) :=
  Program.only_bind h fun _ => trivial

theorem only_ofStore {p : Program (Except StoreError α)} (h : Program.Only P p) : Only P (ofStore p) :=
  Program.only_bind h fun _ => trivial

theorem only_ofSql {p : Program (Except SqlError α)} (h : Program.Only P p) : Only P (ofSql p) :=
  Program.only_bind h fun _ => trivial

theorem only_inContext {what : String} {p : Op α} (h : Only P p) : Only P (inContext what p) :=
  Program.only_bind h fun _ => trivial

theorem only_andAlways {p : Op α} {q : Program Unit} (first : Only P p) (always : Program.Only P q) :
    Only P (andAlways p q) :=
  Program.only_bind first fun _ => Program.only_bind always fun _ => trivial

theorem only_mono {P' : Call → Prop} (wider : ∀ c, P c → P' c) {p : Op α} (h : Only P p) : Only P' p :=
  Program.only_mono wider h

theorem wp_of_only {I : σ → Prop} (keeps : ∀ c K s, P c → I s → (∀ r t, I t → K r t) → D c K s) {p : Op α} {s : σ}
    (h : Only P p) (start : I s) : wp D (fun _ => I) (fun _ => I) p s :=
  wp_either.2 (Program.wp_of_only keeps h start)

end Only

/-! ## Results -/

/-- Whatever `p` is answered, what it succeeds with is among `Q`. -/
def Yields (Q : α → Prop) (p : Op α) : Prop := Program.Yields (fun r => ∀ a, r = .ok a → Q a) p.run

section Yields
variable {Q : α → Prop}

theorem yields_any (p : Op α) : Yields (fun _ => True) p := Program.yields_of_forall (fun _ _ _ => trivial) p.run

theorem yields_pure {a : α} (h : Q a) : Yields Q (pure a : Op α) := by
  rintro _ ⟨⟩
  exact h

theorem yields_bind {P : α → Prop} {Q : β → Prop} {p : Op α} {f : α → Op β} (first : Yields P p)
    (rest : ∀ a, P a → Yields Q (f a)) : Yields Q (p >>= f) := by
  refine Program.yields_bind first fun r yielded => ?_
  cases r with
  | ok a => exact rest a (yielded a rfl)
  | error e => exact nofun

theorem yields_lift {p : Program α} (h : Program.Yields Q p) : Yields Q (liftM p : Op α) := by
  refine Program.yields_bind h fun a yielded => ?_
  rintro _ ⟨⟩
  exact yielded

theorem yields_inContext {what : String} {p : Op α} (h : Yields Q p) : Yields Q (inContext what p) := by
  refine Program.yields_bind h fun r yielded => ?_
  cases r with
  | ok a => exact yielded
  | error e => exact nofun

theorem yields_andAlways {p : Op α} {q : Program Unit} (h : Yields Q p) : Yields Q (andAlways p q) :=
  Program.yields_bind h fun _ yielded => Program.yields_bind (Program.yields_any q) fun _ _ => yielded

end Yields


/-- Whatever `p` is answered, it succeeds. -/
def Sure (p : Op α) : Prop := Program.Yields (fun r => r.isOk) p.run

theorem sure_pure (a : α) : Sure (pure a : Op α) := rfl

theorem sure_bind {p : Op α} {f : α → Op β} (first : Sure p) (rest : ∀ a, Sure (f a)) : Sure (p >>= f) := by
  refine Program.yields_bind first fun r succeeded => ?_
  cases r with
  | ok a => exact rest a
  | error e => cases succeeded

theorem sure_lift (p : Program α) : Sure (liftM p : Op α) := Program.yields_bind (Program.yields_any p) fun _ _ => rfl

/-- What holds of an operation that does not fail holds when it has succeeded. -/
theorem wp_sure [Monotone D] {I : σ → Prop} {p : Op α} (sure : Sure p) (h : Program.wp D (fun _ => I) p.run s) :
    wp D (fun _ => I) (fun _ _ => False) p s := by
  refine Program.wp_mono (fun r t ended => ?_) (Program.wp_yields h sure)
  cases r with
  | ok a => exact ended.1
  | error e => cases ended.2

end Op

/-! ## Programs on their own -/

namespace Surroundings

/-- What may be answered to caller `i`, and what follows. -/
def Answered (i : Nat) : Program.Replies Surroundings := fun c s r t => s.Allows c r ∧ t = s.after i c r

/-- A run of a program by caller `i` with nothing in between. -/
abbrev Runs {α : Type} (i : Nat) (p : Program α) (s : Surroundings) (a : α) (t : Surroundings) : Prop :=
  Program.Runs (Answered i) p s a t

/-- For a program that runs on its own, whatever it is answered. -/
abbrev alone (i : Nat) : Program.Demands Surroundings := Program.demonic (Answered i)

/-- For a program that runs on its own, with answers that it can get. -/
abbrev lucky (i : Nat) : Program.Demands Surroundings := Program.angelic (Answered i)

theorem alone_iff {i : Nat} {c : Call} {K : c.Answer → Surroundings → Prop} {s : Surroundings} :
    alone i c K s ↔ ∀ r, s.Allows c r → K r (s.after i c r) :=
  ⟨fun h r allowed => h r _ ⟨allowed, rfl⟩, fun h r _ ⟨allowed, same⟩ => same ▸ h r allowed⟩

/-- Every call can be answered, so what holds whatever the answers are can be reached. -/
theorem wp_lucky_of_alone {α : Type} {i : Nat} {Q : α → Surroundings → Prop} {p : Program α} {s : Surroundings}
    (h : Program.wp (alone i) Q p s) : Program.wp (lucky i) Q p s := by
  have total (c : Call) (s : Surroundings) : ∃ r t, Answered i c s r t := by
    obtain ⟨r, allowed⟩ := s.exists_allowed c
    exact ⟨r, _, allowed, rfl⟩
  obtain ⟨a, t, run⟩ := Program.exists_run total p s
  exact Program.wp_angelic_iff.2 ⟨a, t, run, Program.wp_demonic_iff.1 h a t run⟩

/-- What has happened stays in the history. -/
theorem history_grows {α : Type} {i : Nat} {p : Program α} {s t : Surroundings} {a : α} (run : Runs i p s a t) :
    s.history <:+ t.history := by
  induction run with
  | done => exact List.suffix_refl _
  | call reply _ ih =>
    obtain ⟨-, rfl⟩ := reply
    exact (List.suffix_cons ..).trans ih

/-- Anything may come of a program that is not looked at. -/
theorem wp_alone_any {α : Type} {i : Nat} (p : Program α) (s : Surroundings) :
    Program.wp (alone i) (fun _ _ => True) p s := Program.wp_demonic_iff.2 fun _ _ _ => trivial

theorem lucky_iff {i : Nat} {c : Call} {K : c.Answer → Surroundings → Prop} {s : Surroundings} :
    lucky i c K s ↔ ∃ r, s.Allows c r ∧ K r (s.after i c r) :=
  ⟨fun ⟨r, _, ⟨allowed, same⟩, h⟩ => ⟨r, allowed, same ▸ h⟩, fun ⟨r, allowed, h⟩ => ⟨r, _, ⟨allowed, rfl⟩, h⟩⟩

/-- What can be reached has also what holds whatever the answers are. -/
theorem wp_lucky_and {α : Type} {i : Nat} {Q Q' : α → Surroundings → Prop} {p : Program α} {s : Surroundings}
    (h : Program.wp (lucky i) Q p s) (h' : Program.wp (alone i) Q' p s) :
    Program.wp (lucky i) (fun a t => Q a t ∧ Q' a t) p s := by
  obtain ⟨a, t, run, holds⟩ := Program.wp_angelic_iff.1 h
  exact Program.wp_angelic_iff.2 ⟨a, t, run, holds, Program.wp_demonic_iff.1 h' a t run⟩

end Surroundings

theorem Op.wp_lucky_and {α : Type} {i : Nat} {ok ok' : α → Surroundings → Prop} {fail fail' : BrokerError → Surroundings → Prop}
    {p : Op α} {s : Surroundings} (h : Op.wp (Surroundings.lucky i) ok fail p s)
    (h' : Op.wp (Surroundings.alone i) ok' fail' p s) :
    Op.wp (Surroundings.lucky i) (fun a t => ok a t ∧ ok' a t) (fun e t => fail e t ∧ fail' e t) p s := by
  refine Program.wp_mono (fun r t both => ?_) (Surroundings.wp_lucky_and h h')
  cases r <;> exact both

end LeaseBroker
