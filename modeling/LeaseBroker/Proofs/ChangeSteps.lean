import LeaseBroker.Proofs.RecordChanges

/-!
How an operation shows that it is a `RecordChange`. It reads the record, checks
it, works on a server, and writes the record last: for each of these steps
there is a lemma on the notes that it leaves (`Fulfils`), and one on how the
operation, when it runs alone, is brought to a given end (`wp_lucky_*`).
-/
namespace LeaseBroker

open Op
open Surroundings (lucky)

variable {α β : Type}

/-! ## Decisions step by step -/

namespace Decision

/-- Refused unless a check is passed. -/
def check (r : Except Refusal α) (d : α → Decision) : Decision :=
  match r with
  | .ok a => d a
  | .error why => refuse why

/-- Refused if `b` is so. -/
def refuseIf (b : Bool) (why : Refusal) (d : Decision) : Decision := if b then refuse why else d

/-- The decision by what a text means; there is none where it cannot be read. -/
def byRecord (decode : String → Except String α) (d : Option α → Decision) : Option String → Decision
  | none => d none
  | some text =>
    match decode text with
    | .ok a => d (some a)
    | .error _ => stuck

theorem byRecord_of_means {decode : String → Except String α} {d : Option α → Decision} {x : Option String}
    {a? : Option α} (h : Means decode x a?) : byRecord decode d x = d a? := by
  cases a? with
  | none =>
    obtain rfl : x = none := h
    rfl
  | some a =>
    obtain ⟨text, rfl, decoded⟩ := h
    simp only [byRecord, decoded]

variable {results : Option String → Prop}

theorem check_eq_write {r : Except Refusal α} {d : α → Decision} (h : check r d = write results) :
    ∃ a, r = .ok a ∧ d a = write results := by
  cases r with
  | ok a => exact ⟨a, rfl, h⟩
  | error why => cases h

theorem refuseIf_eq_write {b : Bool} {why : Refusal} {d : Decision} (h : refuseIf b why d = write results) :
    b = false ∧ d = write results := by
  cases b
  · exact ⟨rfl, h⟩
  · cases h

theorem byRecord_eq_write {decode : String → Except String α} {d : Option α → Decision} {x : Option String}
    (h : byRecord decode d x = write results) : ∃ a?, Means decode x a? ∧ d a? = write results := by
  cases x with
  | none => exact ⟨none, rfl, h⟩
  | some text =>
    simp only [byRecord] at h
    split at h
    · rename_i a decoded
      exact ⟨some a, ⟨text, rfl, decoded⟩, h⟩
    · cases h

end Decision

/-- What may be wanted of an operation: that it is refused, or that it leaves something in place of the record. -/
inductive Aim where
  | refused (why : Refusal)
  | left (v : Option String)

/-- What a decision allows. -/
def Decision.Allows : Decision → Aim → Prop
  | refuse why, .refused why' => why = why'
  | write results, .left v => results v
  | _, _ => False

namespace Decision

theorem allows_of_refuse {d : Decision} {why : Refusal} (h : d = refuse why) : d.Allows (.refused why) := by
  subst h
  exact rfl

theorem allows_of_write {d : Decision} {results : Option String → Prop} {v : Option String} (h : d = write results)
    (result : results v) : d.Allows (.left v) := by
  subst h
  exact result

theorem means_of_allows {decode : String → Except String α} {d : Option α → Decision} {x : Option String}
    {aim : Aim} (h : (byRecord decode d x).Allows aim) : ∃ a?, Means decode x a? ∧ (d a?).Allows aim := by
  cases x with
  | none => exact ⟨none, rfl, h⟩
  | some text =>
    simp only [byRecord] at h
    split at h
    · rename_i a decoded
      exact ⟨some a, ⟨text, rfl, decoded⟩, h⟩
    · cases aim <;> exact h.elim

end Decision

/-! ## What an operation notes -/

namespace Notes

/-- The notes after `x` was read. -/
def read (n : Notes) (x : Option String) : Notes := ⟨x :: n.reads, n.changes⟩

/-- The notes after `v` was left. -/
def leave (n : Notes) (v : Option String) : Notes := ⟨n.reads, (n.reads, v) :: n.changes⟩

variable {key : String} {i : Nat} (n : Notes)

theorem add_fetched (x : Option String) : n.add key ⟨i, .fetch key, .ok x⟩ = n.read x := by
  simp [add, read, Event.read?, Event.left?]

theorem add_fetch_other {k : String} (other : k ≠ key) (r : Except StoreError (Option String)) :
    n.add key ⟨i, .fetch k, r⟩ = n := by
  cases r with
  | error e => rfl
  | ok x => simp [add, Event.read?, Event.left?, other]

theorem add_put (v : String) : n.add key ⟨i, .put key v, .ok ()⟩ = n.leave (some v) := by
  simp [add, leave, Event.read?, Event.left?]

theorem add_delete : n.add key ⟨i, .delete key, .ok ()⟩ = n.leave none := by
  simp [add, leave, Event.read?, Event.left?]

theorem add_works {c : Call} (works : c.works) (r : c.Answer) : n.add key ⟨i, c, r⟩ = n := by
  cases c <;> first | rfl | cases works

end Notes

/-- What `p` does can only succeed, and writes under no key of `kept`. -/
structure Op.Closes (kept : String → Prop) (p : Op α) : Prop where
  sure : Op.Sure p
  only : Op.Only (·.Spares kept) p

namespace Op

variable {kept : String → Prop}

theorem closes_pure (a : α) : Closes kept (pure a) := ⟨sure_pure a, only_pure a⟩

theorem closes_bind {p : Op α} {f : α → Op β} (first : Closes kept p) (rest : ∀ a, Closes kept (f a)) :
    Closes kept (p >>= f) :=
  ⟨sure_bind first.sure fun a => (rest a).sure, only_bind first.only fun a => (rest a).only⟩

theorem closes_lift {p : Program α} (h : Program.Only (·.Spares kept) p) : Closes kept (liftM p : Op α) :=
  ⟨sure_lift p, only_lift h⟩

end Op

theorem Call.spares_of_not_writes {fixed : String → Prop} (c : Call) (h : !c.writes) : c.Spares fixed := by
  cases c <;> trivial

theorem spares_of_works {P : String → Prop} {α : Type} {p : Program α} (h : Program.Only (·.works) p) :
    Program.Only (·.Spares P) p :=
  Program.only_mono (fun c works => c.spares_of_not_writes (c.not_writes_of_works works)) h

theorem Fleet.closes_flushed {kept : String → Prop} {what : Eviction} {outcome : Outcome Unit} :
    Op.Closes kept (flushed what outcome) := ⟨sure_flushed, spares_of_works only_flushed⟩

section Fulfils
variable {key : String} {fixed : String → Prop} {others : Table String} {decide : Option String → Decision}
  {fallible : Prop} {n : Notes} {ok : α → Notes → Prop} {done : β → Notes → Prop}

/-- From its notes `n` on, `p` succeeds in `ok`, or fails with notes that justify this. -/
abbrev Fulfils (key : String) (fixed : String → Prop) (others : Table String) (decide : Option String → Decision)
    (fallible : Prop) (ok : α → Notes → Prop) (n : Notes) (p : Op α) : Prop :=
  Op.wp (watching key fixed others) ok (fun e => Justified decide fallible (.ofError e)) p n

/-- Before anything was written, an operation may fail. -/
theorem justified_failed (nothing : n.changes = []) (can : fallible) : Justified decide fallible .failed n :=
  ⟨nothing, can⟩

theorem justified_of_fatal (nothing : n.changes = []) (can : fallible) {e : BrokerError} (fatal : Fatal e) :
    Justified decide fallible (.ofError e) n := by
  rw [Verdict.ofError_of_fatal fatal]
  exact justified_failed nothing can

theorem labour_watching : Labour (watching key fixed others) (· = n) Fatal where
  call {c K s} works inside next := by
    refine ⟨c.spares_of_not_writes (c.not_writes_of_works works), fun r _ => next r _ ?_ fun _ _ => nofun⟩
    rw [Notes.add_works _ works]
    exact inside
  context h := h.inContext

/-- What is left of a decision: that of the text that was read last, or of any text. -/
def Comes (decide : Option String → Decision) (n : Notes) (d : Option String → Decision) : Prop :=
  (∃ x, n.reads.head? = some x ∧ decide x = d x) ∨ ∀ x, decide x = d x

theorem comes_start (decide : Option String → Decision) (n : Notes) : Comes decide n decide := .inr fun _ => rfl

theorem fulfils_refused {why : Refusal} {rest : α → Op β} (nothing : n.changes = [])
    (h : (∃ x ∈ n.reads, decide x = .refuse why) ∨ ∀ x, decide x = .refuse why) :
    Fulfils key fixed others decide fallible done n (Op.refuse why >>= rest) :=
  (Op.wp_bind ..).2 (show Justified decide fallible (.refused why) n from ⟨nothing, h⟩)

theorem Comes.justifies {why : Refusal} (h : Comes decide n fun _ => .refuse why) :
    (∃ x ∈ n.reads, decide x = .refuse why) ∨ ∀ x, decide x = .refuse why := by
  rcases h with ⟨x, last, decided⟩ | always
  · exact .inl ⟨x, List.mem_of_head? last, decided⟩
  · exact .inr always

theorem Comes.last {d : Option String → Decision} {x : Option String} (h : Comes decide n d)
    (last : n.reads.head? = some x) : decide x = d x := by
  rcases h with ⟨y, same, decided⟩ | always
  · cases same.symm.trans last
    exact decided
  · exact always x

theorem Comes.founds {results : Option String → Prop} {x left : Option String}
    (h : Comes decide n fun _ => .write results) (last : n.reads.head? = some x) (result : results left) :
    Founded decide n.reads left := .inl ⟨x, results, last, h.last last, result⟩

theorem fulfils_refuse {why : Refusal} (nothing : n.changes = []) (comes : Comes decide n fun _ => .refuse why) :
    Fulfils key fixed others decide fallible ok n (Op.refuse why : Op α) := ⟨nothing, comes.justifies⟩

theorem fulfils_check {r : Except Refusal α} {d : Option String → α → Decision} {f : α → Op β}
    (nothing : n.changes = []) (comes : Comes decide n fun x => .check r (d x))
    (rest : ∀ a, r = .ok a → Comes decide n (d · a) → Fulfils key fixed others decide fallible done n (f a)) :
    Fulfils key fixed others decide fallible done n (Op.ofRefusal r >>= f) := by
  refine (Op.wp_bind ..).2 ((Op.wp_ofRefusal _).2 ?_)
  cases r with
  | ok a => exact rest a rfl comes
  | error why => exact ⟨nothing, comes.justifies⟩

theorem fulfils_unless {b : Bool} {why : Refusal} {d : Option String → Decision} {rest : Unit → Op β}
    (nothing : n.changes = []) (comes : Comes decide n fun x => .refuseIf b why (d x))
    (later : b = false → Comes decide n d → Fulfils key fixed others decide fallible done n (rest ())) :
    Fulfils key fixed others decide fallible done n (if b then Op.refuse why >>= rest else rest ()) := by
  cases b
  · exact later rfl comes
  · exact fulfils_refused nothing comes.justifies

theorem fulfils_work {p : Op α} {f : α → Op β} {P : α → Prop}
    (work : Op.Works (watching key fixed others) (· = n) Fatal p) (yields : Op.Yields P p)
    (nothing : n.changes = []) (can : fallible) (rest : ∀ a, P a → Fulfils key fixed others decide fallible done n (f a)) :
    Fulfils key fixed others decide fallible done n (p >>= f) := by
  refine (Op.wp_bind ..).2 (Program.wp_mono (fun r m ended => ?_) (Program.wp_yields (work n rfl) yields))
  obtain ⟨ended, yielded⟩ := ended
  cases r with
  | ok a =>
    obtain rfl : m = n := ended
    exact rest a (yielded a rfl)
  | error e =>
    obtain ⟨rfl, fatal⟩ := ended
    exact justified_of_fatal nothing can fatal

/-- An operation reads the record and goes by what it read. -/
theorem fulfils_load {decode : String → Except String α} {f : Option α → Op β} (nothing : n.changes = [])
    (can : fallible)
    (rest : ∀ x a?, Means decode x a? → Fulfils key fixed others decide fallible done (n.read x) (f a?)) :
    Fulfils key fixed others decide fallible done n (loadRecord decode key >>= f) := by
  have failed : Justified decide fallible .failed n := justified_failed nothing can
  refine (Op.wp_bind ..).2 ((Op.wp_bind_ofStore ..).2 ⟨trivial, fun r _ => ?_⟩)
  cases r with
  | error e => exact failed
  | ok x =>
    rw [Notes.add_fetched]
    cases x with
    | none => exact rest none none rfl
    | some text =>
      dsimp only [Program.wp, Except.mapError, Op.Ended]
      split
      · rename_i a decoded
        exact rest (some text) (some a) ⟨text, rfl, decoded⟩
      · exact failed

theorem fulfils_read {decode : String → Except String α} {d : Option String → Option α → Decision} {f : Option α → Op β}
    (unread : n.reads = []) (nothing : n.changes = []) (can : fallible)
    (comes : Comes decide n fun x => .byRecord decode (d x) x)
    (rest : ∀ x a?, Means decode x a? → Comes decide (n.read x) (d · a?) →
      Fulfils key fixed others decide fallible done (n.read x) (f a?)) :
    Fulfils key fixed others decide fallible done n (loadRecord decode key >>= f) := by
  refine fulfils_load nothing can fun x a? means => ?_
  rcases comes with ⟨y, last, -⟩ | decides
  · rw [unread] at last
    cases last
  · have decided := (decides x).trans (Decision.byRecord_of_means means)
    exact rest x a? means (.inl ⟨x, rfl, decided⟩)

/-- Another record is what it always was. -/
theorem wp_watching_loadRecord {decode : String → Except String α} {k : String} (stays : fixed k) (other : k ≠ key) :
    Op.wp (watching key fixed others) (fun a? m => m = n ∧ Loads decode others k a?) (fun e m => m = n ∧ Fatal e)
      (loadRecord decode k) n := by
  refine (Op.wp_bind_ofStore ..).2 ⟨trivial, fun r agrees => ?_⟩
  cases r with
  | error e => exact ⟨rfl, nofun⟩
  | ok x =>
    rw [Notes.add_fetch_other _ other]
    obtain rfl : x = others.get? k := agrees stays
    cases stored : others.get? k with
    | none => exact ⟨rfl, stored⟩
    | some text =>
      dsimp only [Program.wp, Except.mapError, Op.Ended]
      split
      · rename_i a decoded
        exact ⟨rfl, text, stored, decoded⟩
      · exact ⟨rfl, nofun⟩

theorem fulfils_look {decode : String → Except String α} {k : String} {d : Option String → Option α → Decision}
    {f : Option α → Op β} (stays : fixed k) (other : k ≠ key) (nothing : n.changes = []) (can : fallible)
    (comes : Comes decide n fun x => .byRecord decode (d x) (others.get? k))
    (rest : ∀ a?, Loads decode others k a? → Comes decide n (d · a?) →
      Fulfils key fixed others decide fallible done n (f a?)) :
    Fulfils key fixed others decide fallible done n (loadRecord decode k >>= f) := by
  refine Op.wp_seq (wp_watching_loadRecord stays other) (fun a? m loaded => ?_) fun e m failed => ?_
  · obtain ⟨rfl, loaded⟩ := loaded
    have decided (x : Option String) : Decision.byRecord decode (d x) (others.get? k) = d x a? :=
      Decision.byRecord_of_means loaded
    exact rest a? loaded (comes.imp (fun ⟨x, last, same⟩ => ⟨x, last, same.trans (decided x)⟩)
      fun same x => (same x).trans (decided x))
  · obtain ⟨rfl, fatal⟩ := failed
    exact justified_of_fatal nothing can fatal

theorem works_get_watching {cluster : String} (stays : fixed (StoreKeys.cluster cluster))
    (other : StoreKeys.cluster cluster ≠ key) (registered : Registered others cluster) (k : ConnectionKey)
    (same : k.cluster = cluster) : Op.Works (watching key fixed others) (· = n) Fatal (Connections.get k) := by
  subst same
  refine Connections.works_getWithin labour_watching (fun K m inside next => ⟨trivial, fun r _ => next r _ inside⟩)
    (fun g c K m inside next => ⟨trivial, fun r _ => next r _ inside⟩) (fun m inside => ?_) (fun _ => nofun) _
  subst inside
  refine Op.wp_mono (wp_watching_loadRecord stays other) (fun record? m loaded => ⟨loaded.1, ?_⟩) fun _ _ failed => failed
  obtain ⟨record, text, stored, -⟩ := registered
  cases record? with
  | none => cases stored.symm.trans loaded.2
  | some record => rfl

/-- What is done after the record was written neither fails nor writes it again. -/
theorem fulfils_closes {p : Op α} (closes : Op.Closes (fun k => k = key ∨ fixed k) p)
    (ended : Justified decide fallible .done n) :
    Fulfils key fixed others decide fallible (fun _ => Justified decide fallible .done) n p := by
  have kept : Program.wp (watching key fixed others) (fun _ m => m.changes = n.changes) p.run n := by
    refine Program.wp_of_only (D := watching key fixed others) (I := fun m => m.changes = n.changes)
      (fun c K m spares same next => ?_) closes.only rfl
    have unwritten (r : c.Answer) : (Event.mk 0 c r).left? key = none := spares.left? (.inl rfl)
    have narrower : c.Spares fixed := by
      cases c with
      | put k v => exact fun stays => spares (.inr stays)
      | delete k => exact fun stays => spares (.inr stays)
      | _ => trivial
    exact ⟨narrower, fun r _ => next r _ ((Notes.changes_add _ (unwritten r)).trans same)⟩
  refine Op.wp_mono (Op.wp_sure closes.sure kept) (fun _ m same => ?_) fun _ _ => False.elim
  obtain ⟨reads, left, changes, founded⟩ := ended
  exact ⟨reads, left, same.trans changes, founded⟩

theorem wp_watching_put {v : String} (free : ¬fixed key) :
    Op.wp (watching key fixed others) (fun _ m => m = n.leave (some v)) (fun e m => m = n ∧ Fatal e)
      (Op.ofStore (Program.put key v)) n := by
  refine (Op.wp_ofStore _).2 ⟨free, fun r _ => ?_⟩
  cases r with
  | error e => exact ⟨rfl, nofun⟩
  | ok u => exact Notes.add_put n v

theorem wp_watching_delete (free : ¬fixed key) :
    Op.wp (watching key fixed others) (fun _ m => m = n.leave none) (fun e m => m = n ∧ Fatal e)
      (Op.ofStore (Program.delete key)) n := by
  refine (Op.wp_ofStore _).2 ⟨free, fun r _ => ?_⟩
  cases r with
  | error e => exact ⟨rfl, nofun⟩
  | ok u => exact Notes.add_delete n

/-- The record is written last. -/
theorem fulfils_write {p : Op α} {f : α → Op β} {left : Option String}
    (write : Op.wp (watching key fixed others) (fun _ m => m = n.leave left) (fun e m => m = n ∧ Fatal e) p n)
    (nothing : n.changes = []) (can : fallible) (founded : Founded decide n.reads left)
    (closes : ∀ a, Op.Closes (fun k => k = key ∨ fixed k) (f a)) :
    Fulfils key fixed others decide fallible (fun _ => Justified decide fallible .done) n (p >>= f) := by
  refine Op.wp_seq write (fun a m written => ?_) fun e m failed => ?_
  · subst written
    exact fulfils_closes (closes a) ⟨n.reads, left, congrArg (_ :: ·) nothing, founded⟩
  · obtain ⟨rfl, fatal⟩ := failed
    exact justified_of_fatal nothing can fatal

end Fulfils

/-! ## Running alone to a given end -/

/-- The record is as wanted, and what is fixed stays as it is. -/
def Written (key : String) (fixed : String → Prop) (others : Table String) (left : Option String)
    (s : Surroundings) : Prop :=
  s.values.get? key = left ∧ Still fixed others s

namespace Aim

/-- A success that is as wanted. -/
def Done (key : String) (fixed : String → Prop) (others : Table String) : Aim → Surroundings → Prop
  | refused _, _ => False
  | left v, t => Written key fixed others v t

/-- A failure that is as wanted, where the store holds `values`. -/
def Failed (values : Table String) : Aim → BrokerError → Surroundings → Prop
  | refused why, e, t => e = .refused why ∧ t.values = values
  | left _, _, _ => False

end Aim

section Alone
variable {i : Nat} {s : Surroundings} {values : Table String} {aim : Aim} {ok : α → Surroundings → Prop}
  {done : β → Surroundings → Prop} {fail : BrokerError → Surroundings → Prop}

theorem failed_of_allows {why : Refusal} (allowed : (Decision.refuse why).Allows aim) (same : s.values = values) :
    aim.Failed values (.refused why) s := by
  cases aim with
  | refused why' =>
    obtain rfl : why = why' := allowed
    exact ⟨rfl, same⟩
  | left v => exact allowed.elim

theorem attains_refuse {why : Refusal} (allowed : (Decision.refuse why).Allows aim) (same : s.values = values) :
    Op.wp (lucky i) ok (aim.Failed values) (Op.refuse why : Op α) s := failed_of_allows allowed same

theorem attains_refused {why : Refusal} {rest : α → Op β} (allowed : (Decision.refuse why).Allows aim)
    (same : s.values = values) : Op.wp (lucky i) done (aim.Failed values) (Op.refuse why >>= rest) s :=
  (Op.wp_bind ..).2 (failed_of_allows allowed same)

theorem attains_check {r : Except Refusal α} {d : α → Decision} {f : α → Op β} (allowed : (Decision.check r d).Allows aim)
    (same : s.values = values)
    (rest : ∀ a, r = .ok a → (d a).Allows aim → Op.wp (lucky i) done (aim.Failed values) (f a) s) :
    Op.wp (lucky i) done (aim.Failed values) (Op.ofRefusal r >>= f) s := by
  refine (Op.wp_bind ..).2 ((Op.wp_ofRefusal _).2 ?_)
  cases r with
  | ok a => exact rest a rfl allowed
  | error why => exact failed_of_allows allowed same

theorem attains_unless {b : Bool} {why : Refusal} {d : Decision} {rest : Unit → Op β}
    (allowed : (Decision.refuseIf b why d).Allows aim) (same : s.values = values)
    (later : d.Allows aim → Op.wp (lucky i) done (aim.Failed values) (rest ()) s) :
    Op.wp (lucky i) done (aim.Failed values) (if b then Op.refuse why >>= rest else rest ()) s := by
  cases b
  · exact later allowed
  · exact attains_refused allowed same

theorem wp_lucky_load {decode : String → Except String α} {key : String} {f : Option α → Op β} {a? : Option α}
    (loaded : Loads decode s.values key a?) (rest : ∀ t, t.values = s.values → Op.wp (lucky i) done fail (f a?) t) :
    Op.wp (lucky i) done fail (loadRecord decode key >>= f) s :=
  wp_load (Surroundings.lucky_iff.2
    ⟨.ok (s.values.get? key), Surroundings.gives_self _, _, a?, rfl, loaded, rest _ rfl⟩)

theorem attains_load {decode : String → Except String α} {key : String} {d : Option α → Decision} {f : Option α → Op β}
    (allowed : (Decision.byRecord decode d (values.get? key)).Allows aim) (same : s.values = values)
    (rest : ∀ a? t, t.values = values → Loads decode values key a? → (d a?).Allows aim →
      Op.wp (lucky i) done (aim.Failed values) (f a?) t) :
    Op.wp (lucky i) done (aim.Failed values) (loadRecord decode key >>= f) s := by
  subst same
  obtain ⟨a?, means, allowed⟩ := Decision.means_of_allows allowed
  exact wp_lucky_load means fun t same => rest a? t same means allowed

/-- Reading may always fail. -/
theorem wp_lucky_unread {decode : String → Except String α} {key : String} {f : Option α → Op β} :
    Op.wp (lucky i) done (fun e t => Verdict.ofError e = .failed ∧ t.values = s.values) (loadRecord decode key >>= f) s := by
  refine (Op.wp_bind ..).2 ((Op.wp_bind_ofStore ..).2 ?_)
  exact Surroundings.lucky_iff.2 ⟨.error (.backend ""), nofun, rfl, rfl⟩

theorem wp_lucky_work {p : Op α} {f : α → Op β} (work : Op.Works (lucky i) (Holding values) (fun _ => False) p)
    (same : s.values = values) (rest : ∀ a t, t.values = values → Op.wp (lucky i) done fail (f a) t) :
    Op.wp (lucky i) done fail (p >>= f) s :=
  Op.wp_seq (work s same) (fun a t same => rest a t same) fun _ _ failed => failed.2.elim

section
variable {key : String} {fixed : String → Prop} {others : Table String} {left : Option String}

theorem wp_lucky_put {v : String} (free : ¬fixed key) (still : Still fixed others s) :
    Op.wp (lucky i) (fun _ => Written key fixed others (some v)) fail (Op.ofStore (Program.put key v)) s := by
  refine (Op.wp_ofStore _).2 (Surroundings.lucky_iff.2 ⟨.ok (), trivial, ?_, still.after free⟩)
  exact Table.get?_insert_self ..

theorem wp_lucky_delete (free : ¬fixed key) (still : Still fixed others s) :
    Op.wp (lucky i) (fun _ => Written key fixed others none) fail (Op.ofStore (Program.delete key)) s := by
  refine (Op.wp_ofStore _).2 (Surroundings.lucky_iff.2 ⟨.ok (), trivial, ?_, still.after free⟩)
  exact Table.get?_erase_self ..

theorem wp_lucky_write {p : Op α} {f : α → Op β}
    (write : Op.wp (lucky i) (fun _ => Written key fixed others left) fail p s)
    (closes : ∀ a, Op.Closes (fun k => k = key ∨ fixed k) (f a)) :
    Op.wp (lucky i) (fun _ => Written key fixed others left) fail (p >>= f) s := by
  refine Op.wp_seq write (fun a t written => ?_) fun _ _ failed => failed
  refine Op.wp_mono (Op.wp_sure (closes a).sure ?_) (fun _ _ written => written) fun _ _ => False.elim
  refine Surroundings.wp_lucky_of_alone (Program.wp_of_only (D := Surroundings.alone i)
    (I := Written key fixed others left) (fun c K u spares written next => ?_) (closes a).only written)
  refine Surroundings.alone_iff.2 fun r _ => next r _ ⟨?_, fun k stays => ?_⟩
  · rw [Surroundings.get?_after, spares.left? (.inl rfl)]
    exact written.1
  · rw [Surroundings.get?_after, spares.left? (.inr stays)]
    exact written.2 k stays

end

end Alone

/-- An operation whose steps are as they must be. -/
def RecordChange.ofOp {key : String} {fixed : String → Prop} (p : Op α) (decide : Table String → Option String → Decision)
    (tolerates : Option String → Prop) (fallible : Prop)
    (steady : ∀ {others x y results}, decide others x = .write results → tolerates y → decide others y = .write results)
    (firm : ∀ {others x results}, decide others x = .write results → results none → ¬Firm x)
    (fulfils : ∀ others, Fulfils key fixed others (decide others) fallible
      (fun _ => Justified (decide others) fallible .done) .blank p)
    (attains : ∀ {others s aim} i, Still fixed others s → (decide others (s.values.get? key)).Allows aim →
      Op.wp (lucky i) (fun _ => aim.Done key fixed others) (aim.Failed s.values) p s)
    (failed : ∀ s i, fallible →
      Op.wp (lucky i) (fun _ _ => False) (fun e t => Verdict.ofError e = .failed ∧ t.values = s.values) p s) :
    RecordChange key fixed where
  program := p.verdict
  decide := decide
  tolerates := tolerates
  fallible := fallible
  steady := steady
  firm := firm
  justified others := Op.wp_verdict.2 (fulfils others)
  refuses i still decided := by
    have attained := attains i still (Decision.allows_of_refuse decided)
    refine Op.wp_verdict.2 (Op.wp_mono attained (fun _ _ => False.elim) fun e t ended => ?_)
    obtain ⟨rfl, same⟩ := ended
    exact ⟨rfl, same⟩
  fails s i can := Op.wp_verdict.2 (Op.wp_mono (failed s i can) (fun _ _ => False.elim) fun _ _ ended => ended)
  writes i still decided result := by
    have attained := attains i still (Decision.allows_of_write decided result)
    exact Op.wp_verdict.2 (Op.wp_mono attained (fun _ _ written => ⟨rfl, written⟩) fun _ _ => False.elim)

end LeaseBroker
