import LeaseBroker.Proofs.Interleaving
import LeaseBroker.Proofs.ServerWork

/-!
Two operations that change one record at the same time. Nothing locks a record:
an operation reads it, does its work, and writes what follows from what it
read. So the later of two writes may undo the earlier one. It does not if no
write comes between the last read of an operation and its own write, or only
one that the operation would have tolerated (`Orderly`). Then the two have the
same results and leave the same record as when they run one after the other.

What each operation must be for this is said once (`RecordChange`): it decides
by what it reads, writes once and last, and can be run alone to the same end.
-/
namespace LeaseBroker

/-- How an operation ended. -/
inductive Verdict where
  | done
  | refused (why : Refusal)
  | failed
  deriving DecidableEq, Repr

namespace Verdict

def ofError : BrokerError → Verdict
  | .refused why => refused why
  | _ => failed

def of {α : Type} : Except BrokerError α → Verdict
  | .ok _ => done
  | .error e => ofError e

theorem ofError_of_fatal {e : BrokerError} (h : Fatal e) : ofError e = failed := by
  cases e with
  | refused why => exact absurd rfl (h why)
  | _ => rfl

end Verdict

/-- An operation of which only the end is of interest. -/
def Op.verdict {α : Type} (p : Op α) : Program Verdict := do return Verdict.of (← p.run)

theorem Op.wp_verdict {α σ : Type} {D : Program.Demands σ} {Q : Verdict → σ → Prop} {p : Op α} {s : σ} :
    Program.wp D Q p.verdict s ↔ Op.wp D (fun _ => Q .done) (fun e => Q (.ofError e)) p s := by
  refine (Program.wp_bind ..).trans (iff_of_eq (congrArg (Program.wp D · p.run s) ?_))
  funext r t
  cases r <;> rfl

/-- What an operation comes to by the text that is stored as the record. -/
inductive Decision where
  | refuse (why : Refusal)
  /-- It cannot succeed, because a stored text is no record. -/
  | stuck
  /-- It may write one of these in place of the record; none is a deletion. -/
  | write (results : Option String → Prop)

/-! ## What an operation has read and written -/

/-- What was read under the key. -/
def Event.read? (key : String) : Event → Option (Option String)
  | ⟨_, .fetch k, .ok v⟩ => if k = key then some v else none
  | _ => none

/-- What one caller read under a key, the latest first, and what it left there, with what it had read by then. -/
structure Notes where
  reads : List (Option String)
  changes : List (List (Option String) × Option String)

namespace Notes

def blank : Notes := ⟨[], []⟩

def add (key : String) (e : Event) (n : Notes) : Notes where
  reads := (e.read? key).toList ++ n.reads
  changes := ((e.left? key).map (n.reads, ·)).toList ++ n.changes

/-- The notes of one caller. -/
def ofHistory (asker : Nat) (key : String) : List Event → Notes
  | [] => blank
  | e :: earlier => if e.asker = asker then (ofHistory asker key earlier).add key e else ofHistory asker key earlier

end Notes

/-- Since a caller last read under a key, only what it tolerates was left there. -/
def Unchanged (tolerates : Option String → Prop) (asker : Nat) (key : String) : List Event → Prop
  | [] => False
  | e :: earlier =>
    e.asker = asker ∧ (e.read? key).isSome ∨
      (∀ v, e.left? key = some v → tolerates v) ∧ Unchanged tolerates asker key earlier

/-- Whoever changed the record knew it, but for what it tolerates. -/
def Orderly (tolerates : Nat → Option String → Prop) (key : String) : List Event → Prop
  | [] => True
  | e :: earlier =>
    ((e.left? key).isSome → Unchanged (tolerates e.asker) e.asker key earlier) ∧ Orderly tolerates key earlier

/-- What only reads is orderly where all before it was. -/
theorem orderly_unless_left {tolerates : Nat → Option String → Prop} {key : String} {e : Event} {earlier : List Event}
    (unwritten : e.left? key = none) (before : Orderly tolerates key earlier) : Orderly tolerates key (e :: earlier) := by
  refine ⟨fun left => ?_, before⟩
  rw [unwritten] at left
  cases left

/-- The record of an active cluster. -/
def Firm (text? : Option String) : Prop :=
  ∃ text record, text? = some text ∧ ClusterRecord.decode text = .ok record ∧ record.disabled = false

theorem Event.read?_or_left? (key : String) (e : Event) : e.read? key = none ∨ e.left? key = none := by
  obtain ⟨i, c, r⟩ := e
  cases c <;> first | exact .inl rfl | exact .inr rfl

namespace Notes

variable {i : Nat} {key : String} {e : Event} {earlier : List Event}

theorem ofHistory_own (own : e.asker = i) : ofHistory i key (e :: earlier) = (ofHistory i key earlier).add key e := by
  rw [ofHistory, if_pos own]

theorem ofHistory_other (other : e.asker ≠ i) : ofHistory i key (e :: earlier) = ofHistory i key earlier := by
  rw [ofHistory, if_neg other]

theorem changes_add (n : Notes) (h : e.left? key = none) : (n.add key e).changes = n.changes := by
  simp [add, h]

theorem reads_add (n : Notes) (h : e.read? key = none) : (n.add key e).reads = n.reads := by
  simp [add, h]

theorem reads_of_unchanged {tolerates : Option String → Prop} {h : List Event} (known : Unchanged tolerates i key h) :
    (ofHistory i key h).reads ≠ [] := by
  induction h with
  | nil => exact known.elim
  | cons e earlier ih =>
    rcases known with ⟨own, read⟩ | ⟨-, before⟩
    · obtain ⟨x, same⟩ := Option.isSome_iff_exists.1 read
      rw [ofHistory_own own]
      simp [add, same]
    · by_cases own : e.asker = i
      · rw [ofHistory_own own]
        simp [add, ih before]
      · rw [ofHistory_other own]
        exact ih before

end Notes

/-! ## The ledger of two callers -/

section Ledger
variable (tolerates : Nat → Option String → Prop) (key : String) (first : Option String)

/-- Nothing was written yet, and only the first value was read. -/
structure Untold (n : Notes) : Prop where
  changes : n.changes = []
  reads : ∀ x ∈ n.reads, x = first

/-- One has read the first value, and then the one that the other has left. -/
def ReadsOf (left : Option String) (reads : List (Option String)) : Prop :=
  ∃ late early, reads = late ++ early ∧ (∀ x ∈ late, x = left) ∧ ∀ x ∈ early, x = first

/-- How far two callers, by the numbers 0 and 1, have come with a record. -/
inductive Ledger (s : Surroundings) : Prop
  | neither (value : s.values.get? key = first) (untold : ∀ i, Untold first (Notes.ofHistory i key s.history))
  | one (i j : Nat) (two : i + j = 1) (reads : List (Option String)) (left : Option String)
      (value : s.values.get? key = left)
      (wrote : (Notes.ofHistory i key s.history).changes = [(reads, left)]) (knew : ∀ x ∈ reads, x = first)
      (waits : (Notes.ofHistory j key s.history).changes = [])
      (knows : ReadsOf first left (Notes.ofHistory j key s.history).reads)
      (minds : Unchanged (tolerates j) j key s.history →
        (Notes.ofHistory j key s.history).reads.head? = some left ∨
          (Notes.ofHistory j key s.history).reads.head? = some first ∧ tolerates j left)
  | both (i j : Nat) (two : i + j = 1) (reads reads' : List (Option String)) (left left' : Option String)
      (value : s.values.get? key = left')
      (wrote : (Notes.ofHistory i key s.history).changes = [(reads, left)]) (knew : ∀ x ∈ reads, x = first)
      (wrote' : (Notes.ofHistory j key s.history).changes = [(reads', left')]) (knows : ReadsOf first left reads')
      (minded : reads'.head? = some left ∨ reads'.head? = some first ∧ tolerates j left)
  /-- One has written twice, which none of the operations does. -/
  | many (i : Nat) (two : i ≤ 1) (more : 1 < (Notes.ofHistory i key s.history).changes.length)

variable {tolerates key first}

theorem readsOf_cons {left : Option String} {reads : List (Option String)} (h : ReadsOf first left reads) :
    ReadsOf first left (left :: reads) := by
  obtain ⟨late, early, rfl, same, before⟩ := h
  refine ⟨left :: late, early, rfl, fun x member => ?_, before⟩
  rcases List.mem_cons.1 member with rfl | member
  · rfl
  · exact same x member

/-- A record that was read before none was has been deleted in between. -/
theorem vanished {left x : Option String} {reads : List (Option String)} {P : Prop} (knows : ReadsOf first left reads)
    (last : reads.head? = some none) (member : x ∈ reads) (firm : Firm x)
    (minded : reads.head? = some left ∨ reads.head? = some first ∧ P) : x = first ∧ left = none := by
  obtain ⟨late, early, rfl, isLeft, isFirst⟩ := knows
  obtain ⟨text, record, rfl, -⟩ := firm
  have here := List.mem_of_head? last
  rcases minded with now | ⟨before, -⟩
  · cases last.symm.trans now
    rcases List.mem_append.1 member with later | earlier
    · cases isLeft _ later
    · exact ⟨isFirst _ earlier, rfl⟩
  · cases last.symm.trans before
    rcases List.mem_append.1 member with later | earlier
    · cases late with
      | nil => cases later
      | cons y rest =>
        cases last
        cases (isLeft _ later).trans (isLeft _ List.mem_cons_self).symm
    · cases isFirst _ earlier

variable {s : Surroundings} {k : Nat} {c : Call} {r : c.Answer}

/-- What does not concern the key leaves the ledger as it is. -/
theorem Ledger.pass (h : Ledger tolerates key first s) (unread : (Event.mk k c r).read? key = none)
    (unwritten : (Event.mk k c r).left? key = none) : Ledger tolerates key first (s.after k c r) := by
  have value : (s.after k c r).values.get? key = s.values.get? key := by
    rw [Surroundings.get?_after, unwritten]
    rfl
  have notes (i : Nat) : Notes.ofHistory i key (s.after k c r).history = Notes.ofHistory i key s.history := by
    by_cases own : k = i
    · rw [Surroundings.after_history, Notes.ofHistory_own own]
      simp [Notes.add, unread, unwritten]
    · exact Notes.ofHistory_other own
  have unchanged (i : Nat) (known : Unchanged (tolerates i) i key (s.after k c r).history) :
      Unchanged (tolerates i) i key s.history := by
    rcases known with ⟨-, read⟩ | ⟨-, before⟩
    · rw [unread] at read
      cases read
    · exact before
  cases h with
  | neither value' untold => exact .neither (value.trans value') fun i => notes i ▸ untold i
  | one i j two reads left value' wrote knew waits knows minds =>
    refine .one i j two reads left (value.trans value') ?_ knew ?_ ?_ fun known => ?_
    · rw [notes, wrote]
    · rw [notes, waits]
    · rw [notes]
      exact knows
    · rw [notes]
      exact minds (unchanged j known)
  | both i j two reads reads' left left' value' wrote knew wrote' knows minded =>
    refine .both i j two reads reads' left left' (value.trans value') ?_ knew ?_ knows minded
    · rw [notes, wrote]
    · rw [notes, wrote']
  | many i two more => exact .many i two (by rw [notes]; exact more)

/-- A caller that reads, reads what is there. -/
theorem Ledger.read (h : Ledger tolerates key first s)
    (read : (Event.mk k c r).read? key = some (s.values.get? key)) :
    Ledger tolerates key first (s.after k c r) := by
  have unwritten : (Event.mk k c r).left? key = none := by
    rcases Event.read?_or_left? key ⟨k, c, r⟩ with none | none
    · rw [none] at read
      cases read
    · exact none
  have value : (s.after k c r).values.get? key = s.values.get? key := by
    rw [Surroundings.get?_after, unwritten]
    rfl
  have changes (i : Nat) : (Notes.ofHistory i key (s.after k c r).history).changes =
      (Notes.ofHistory i key s.history).changes := by
    by_cases own : k = i
    · rw [Surroundings.after_history, Notes.ofHistory_own own, Notes.changes_add _ unwritten]
    · rw [Surroundings.after_history, Notes.ofHistory_other own]
  have own : (Notes.ofHistory k key (s.after k c r).history).reads =
      s.values.get? key :: (Notes.ofHistory k key s.history).reads := by
    rw [Surroundings.after_history, Notes.ofHistory_own (i := k) rfl]
    simp [Notes.add, read]
  have other {i : Nat} (h : k ≠ i) : Notes.ofHistory i key (s.after k c r).history = Notes.ofHistory i key s.history :=
    Notes.ofHistory_other h
  cases h with
  | neither value' untold =>
    refine .neither (value.trans value') fun i => ⟨(changes i).trans (untold i).changes, ?_⟩
    by_cases same : k = i
    · subst same
      rw [own, value']
      exact List.forall_mem_cons.2 ⟨rfl, (untold k).reads⟩
    · rw [other same]
      exact (untold i).reads
  | one i j two' reads left value' wrote knew waits knows minds =>
    refine .one i j two' reads left (value.trans value') ((changes i).trans wrote) knew ((changes j).trans waits) ?_ ?_
    · by_cases same : k = j
      · subst same
        rw [own, value']
        exact readsOf_cons knows
      · rw [other same]
        exact knows
    · intro known
      by_cases same : k = j
      · subst same
        rw [own, value']
        exact .inl rfl
      · rw [other same]
        rcases known with ⟨mine, -⟩ | ⟨-, before⟩
        · exact absurd mine same
        · exact minds before
  | both i j two' reads reads' left left' value' wrote knew wrote' knows minded =>
    exact .both i j two' reads reads' left left' (value.trans value') ((changes i).trans wrote) knew
      ((changes j).trans wrote') knows minded
  | many i two more => exact .many i two (by rw [changes]; exact more)

/-- A caller that writes has to know what it replaces, but for what it tolerates. -/
theorem Ledger.write (h : Ledger tolerates key first s) (two : k ≤ 1) {v : Option String}
    (left : (Event.mk k c r).left? key = some v) (orderly : Unchanged (tolerates k) k key s.history) :
    Ledger tolerates key first (s.after k c r) := by
  have value : (s.after k c r).values.get? key = v := by
    rw [Surroundings.get?_after, left]
    rfl
  have own : (Notes.ofHistory k key (s.after k c r).history).changes =
      ((Notes.ofHistory k key s.history).reads, v) :: (Notes.ofHistory k key s.history).changes := by
    rw [Surroundings.after_history, Notes.ofHistory_own (i := k) rfl]
    simp [Notes.add, left]
  have other {i : Nat} (h : k ≠ i) : Notes.ofHistory i key (s.after k c r).history = Notes.ofHistory i key s.history :=
    Notes.ofHistory_other h
  cases h with
  | neither value' untold =>
    have different : k ≠ 1 - k := by omega
    refine .one k (1 - k) (by omega) _ v value ?_ (untold k).reads ?_ ?_ ?_
    · rw [own, (untold k).changes]
    · rw [other different]
      exact (untold (1 - k)).changes
    · rw [other different]
      exact ⟨[], _, rfl, nofun, (untold (1 - k)).reads⟩
    · rintro (⟨mine, -⟩ | ⟨tolerated, before⟩)
      · exact absurd mine different
      · rw [other different]
        have some := Notes.reads_of_unchanged before
        have all := (untold (1 - k)).reads
        cases reads : (Notes.ofHistory (1 - k) key s.history).reads with
        | nil => exact absurd reads some
        | cons x rest =>
          rw [reads] at all
          rw [all x List.mem_cons_self]
          exact .inr ⟨rfl, tolerated v left⟩
  | one i j two' reads left' value' wrote knew waits knows minds =>
    by_cases same : k = j
    · subst same
      have different : k ≠ i := by omega
      refine .both i k two' reads _ left' v value ?_ knew ?_ knows (minds orderly)
      · rw [other different, wrote]
      · rw [own, waits]
    · obtain rfl : k = i := by omega
      exact .many k two (by rw [own, wrote]; simp)
  | both i j two' reads reads' left' left'' value' wrote knew wrote' knows minded =>
    refine .many k two ?_
    rw [own]
    rcases (by omega : k = i ∨ k = j) with rfl | rfl
    · rw [wrote]
      simp
    · rw [wrote']
      simp
  | many i two' more =>
    refine .many i two' ?_
    by_cases same : k = i
    · subst same
      rw [own, List.length_cons]
      omega
    · rw [other same]
      exact more

end Ledger

/-! ## One operation among others -/

/-- A call writes under no key that is to stay as it is. -/
def Call.Spares (fixed : String → Prop) : Call → Prop
  | .put k _ => ¬fixed k
  | .delete k => ¬fixed k
  | _ => True

/-- What is to stay as it is lies as it did. -/
def Still (fixed : String → Prop) (others : Table String) (s : Surroundings) : Prop :=
  ∀ k, fixed k → s.values.get? k = others.get? k

/-- An answer fits what stays as it is. -/
def Agrees (fixed : String → Prop) (others : Table String) : (c : Call) → c.Answer → Prop
  | .fetch k, .ok v => fixed k → v = others.get? k
  | _, _ => True

/-- For an operation of which only the notes on one record are of interest, whatever others do to what is not
    fixed. -/
def watching (key : String) (fixed : String → Prop) (others : Table String) : Program.Demands Notes := fun c K n =>
  c.Spares fixed ∧ ∀ r, Agrees fixed others c r → K r (n.add key ⟨0, c, r⟩)

instance (key : String) (fixed : String → Prop) (others : Table String) :
    Program.Monotone (watching key fixed others) where
  mono weaker h := ⟨h.1, fun r agrees => weaker r _ (h.2 r agrees)⟩

/-- What a write was founded on: the last text that was read, or a record that was there once and then was not. -/
def Founded (decide : Option String → Decision) (reads : List (Option String)) (left : Option String) : Prop :=
  (∃ x results, reads.head? = some x ∧ decide x = .write results ∧ results left) ∨
    reads.head? = some none ∧ ∃ x ∈ reads, Firm x

/-- What the notes must say when an operation has ended. -/
def Justified (decide : Option String → Decision) (fallible : Prop) : Verdict → Notes → Prop
  | .done, n => ∃ reads left, n.changes = [(reads, left)] ∧ Founded decide reads left
  | .refused why, n => n.changes = [] ∧ ((∃ x ∈ n.reads, decide x = .refuse why) ∨ ∀ x, decide x = .refuse why)
  | .failed, n => n.changes = [] ∧ fallible

theorem Justified.idle {decide : Option String → Decision} {fallible : Prop} {v : Verdict} {n : Notes}
    (h : Justified decide fallible v n) (nothing : n.changes = []) :
    v ≠ .done ∧ (v = .failed → fallible) ∧
      ∀ why, v = .refused why → (∃ x ∈ n.reads, decide x = .refuse why) ∨ ∀ x, decide x = .refuse why := by
  cases v with
  | done =>
    obtain ⟨reads, left, wrote, -⟩ := h
    rw [nothing] at wrote
    cases wrote
  | refused why =>
    refine ⟨nofun, nofun, ?_⟩
    rintro _ ⟨⟩
    exact h.2
  | failed => exact ⟨nofun, fun _ => h.2, nofun⟩

theorem Justified.wrote {decide : Option String → Decision} {fallible : Prop} {v : Verdict} {n : Notes}
    {reads : List (Option String)} {left : Option String} (h : Justified decide fallible v n)
    (something : n.changes = [(reads, left)]) : v = .done ∧ Founded decide reads left := by
  cases v with
  | done =>
    obtain ⟨reads', left', wrote, founded⟩ := h
    rw [something] at wrote
    cases wrote
    exact ⟨rfl, founded⟩
  | refused why => rw [h.1] at something; cases something
  | failed => rw [h.1] at something; cases something

/-- A write that is founded on nothing but one text follows from that text. -/
theorem Founded.of_all {decide : Option String → Decision} {reads : List (Option String)} {left x : Option String}
    (h : Founded decide reads left) (all : ∀ y ∈ reads, y = x) : ∃ results, decide x = .write results ∧ results left := by
  rcases h with ⟨y, results, last, decided, result⟩ | ⟨last, y, member, text, record, same, -⟩
  · cases all y (List.mem_of_head? last)
    exact ⟨results, decided, result⟩
  · cases all none (List.mem_of_head? last)
    cases (all y member).symm.trans same

/-- No operation writes twice. -/
theorem Justified.length_changes_le {decide : Option String → Decision} {fallible : Prop} {v : Verdict} {n : Notes}
    (h : Justified decide fallible v n) : n.changes.length ≤ 1 := by
  cases v with
  | done =>
    obtain ⟨reads, left, wrote, -⟩ := h
    simp [wrote]
  | refused why => simp [h.1]
  | failed => simp [h.1]

/-- What is refused after reading two texts is refused by one of them. -/
theorem Justified.refused_of_readsOf {decide : Option String → Decision} {fallible : Prop} {v : Verdict} {n : Notes}
    {first left : Option String} (h : Justified decide fallible v n) (nothing : n.changes = [])
    (knows : ReadsOf first left n.reads) :
    (∀ why, v = .refused why → decide left = .refuse why) ∨ ∀ why, v = .refused why → decide first = .refuse why := by
  cases v with
  | refused why =>
    obtain ⟨late, early, same, isLeft, isFirst⟩ := knows
    rcases (h.idle nothing).2.2 why rfl with ⟨x, member, decided⟩ | decided
    · rw [same] at member
      rcases List.mem_append.1 member with later | earlier
      · exact .inl fun _ again => by cases again; exact isLeft x later ▸ decided
      · exact .inr fun _ again => by cases again; exact isFirst x earlier ▸ decided
    · exact .inl fun _ again => by cases again; exact decided left
  | _ => exact .inl nofun

/-- An operation that changes the record under a key, while other keys stay as they are. -/
structure RecordChange (key : String) (fixed : String → Prop) where
  program : Program Verdict
  /-- What it comes to, by what is stored under other keys and by the text under the key. -/
  decide : Table String → Option String → Decision
  /-- What may be left under the key by others after it was read. -/
  tolerates : Option String → Prop
  /-- Whether it can fail at all before it is refused. -/
  fallible : Prop
  steady {others : Table String} {x y : Option String} {results : Option String → Prop} :
    decide others x = .write results → tolerates y → decide others y = .write results
  /-- The record of an active cluster is not deleted. -/
  firm {others : Table String} {x : Option String} {results : Option String → Prop} :
    decide others x = .write results → results none → ¬Firm x
  justified (others : Table String) :
    Program.wp (watching key fixed others) (Justified (decide others) fallible) program .blank
  refuses {others : Table String} {s : Surroundings} {why : Refusal} (i : Nat) (still : Still fixed others s)
    (decided : decide others (s.values.get? key) = .refuse why) :
    Program.wp (Surroundings.lucky i) (fun v t => v = .refused why ∧ t.values = s.values) program s
  fails (s : Surroundings) (i : Nat) (can : fallible) :
    Program.wp (Surroundings.lucky i) (fun v t => v = .failed ∧ t.values = s.values) program s
  writes {others : Table String} {s : Surroundings} {results : Option String → Prop} {left : Option String} (i : Nat)
    (still : Still fixed others s) (decided : decide others (s.values.get? key) = .write results)
    (result : results left) :
    Program.wp (Surroundings.lucky i) (fun v t => v = .done ∧ t.values.get? key = left ∧ Still fixed others t) program s

section
variable {key : String} {fixed : String → Prop} {others : Table String} {s t : Surroundings} {i : Nat} {c : Call}
  {r : c.Answer}

theorem Call.Spares.left? {k : String} (h : c.Spares fixed) (stays : fixed k) : (Event.mk i c r).left? k = none := by
  have other {k' : String} (written : ¬fixed k') : k' ≠ k := fun same => written (same ▸ stays)
  cases c with
  | put k' v =>
    cases r with
    | error e => rfl
    | ok u => exact if_neg (other h)
  | delete k' =>
    cases r with
    | error e => rfl
    | ok u => exact if_neg (other h)
  | _ => rfl

theorem Still.after (h : Still fixed others s) (spares : c.Spares fixed) : Still fixed others (s.after i c r) := by
  intro k stays
  rw [Surroundings.get?_after, spares.left? stays]
  exact h k stays

theorem Still.of_values (h : Still fixed others s) (same : t.values = s.values) : Still fixed others t := by
  intro k stays
  rw [same]
  exact h k stays

theorem agrees_of_still (h : Still fixed others s) (allowed : s.Allows c r) : Agrees fixed others c r := by
  cases c with
  | fetch k =>
    cases r with
    | error e => trivial
    | ok v => exact fun stays => (Surroundings.eq_of_gives allowed).trans (h k stays)
  | _ => trivial

/-- A call that reads under the key reads what is there. -/
theorem read?_of_allows (key : String) (allowed : s.Allows c r) :
    (Event.mk i c r).read? key = none ∨ (Event.mk i c r).read? key = some (s.values.get? key) := by
  cases c with
  | fetch k =>
    cases r with
    | error e => exact .inl rfl
    | ok v =>
      by_cases same : k = key
      · subst same
        exact .inr ((if_pos rfl).trans (congrArg some (Surroundings.eq_of_gives allowed)))
      · exact .inl (if_neg same)
  | _ => exact .inl rfl

end

/-! ## Two operations -/

section Two
variable {key : String} {fixed : String → Prop} {others : Table String} {first : Option String} {tolerates : Nat → Option String → Prop}

/-- What is fixed stays as it is, and the ledger accounts for the record. -/
structure Accounted (tolerates : Nat → Option String → Prop) (key : String) (fixed : String → Prop)
    (others : Table String) (first : Option String) (s : Surroundings) : Prop where
  still : Still fixed others s
  ledger : Ledger tolerates key first s

/-- For one of two operations, as long as writes are orderly. -/
abbrev among (tolerates : Nat → Option String → Prop) (key : String) (fixed : String → Prop) (others : Table String)
    (first : Option String) (i : Nat) : Program.Demands Surroundings :=
  Pool.amid (fun t => Orderly tolerates key t.history) (Accounted tolerates key fixed others first)
    (fun i s t => Notes.ofHistory i key t.history = Notes.ofHistory i key s.history) i

theorem accounted_after {s : Surroundings} {i : Nat} {c : Call} {r : c.Answer} (two : i ≤ 1)
    (h : Accounted tolerates key fixed others first s) (spares : c.Spares fixed) (allowed : s.Allows c r)
    (orderly : Orderly tolerates key (s.after i c r).history) :
    Accounted tolerates key fixed others first (s.after i c r) := by
  refine ⟨h.still.after spares, ?_⟩
  cases left : (Event.mk i c r).left? key with
  | some v => exact h.ledger.write two left (orderly.1 (by rw [left]; rfl))
  | none =>
    rcases read?_of_allows (i := i) key allowed with unread | read
    · exact h.ledger.pass unread left
    · exact h.ledger.read read

theorem Notes.add_asker (n : Notes) (i j : Nat) (c : Call) (r : c.Answer) :
    n.add key ⟨i, c, r⟩ = n.add key ⟨j, c, r⟩ := by
  cases c <;> first | rfl | cases r <;> rfl

/-- What the notes of an operation say in the end does not depend on what the other one does. -/
theorem wp_among {α : Type} {i : Nat} (two : i ≤ 1) {Q : α → Notes → Prop} {p : Program α} {s : Surroundings}
    (h : Program.wp (watching key fixed others) Q p (Notes.ofHistory i key s.history)) :
    Program.wp (among tolerates key fixed others first i) (fun a t => Q a (Notes.ofHistory i key t.history)) p s := by
  induction p generalizing s with
  | done a => exact h
  | call c next ih =>
    obtain ⟨spares, rest⟩ := h
    intro t inside same r allowed orderly
    refine ⟨accounted_after two inside spares allowed orderly, fun j other => ?_, ih r ?_⟩
    · exact Notes.ofHistory_other other.symm
    · have own : Notes.ofHistory i key (t.after i c r).history = (Notes.ofHistory i key s.history).add key ⟨0, c, r⟩ := by
        rw [Surroundings.after_history, Notes.ofHistory_own (i := i) rfl, same, Notes.add_asker _ i 0]
      rw [own]
      exact rest r (agrees_of_still inside.still allowed)

theorem orderly_within {α : Type} {p q : Pool α} (run : Pool.Reaches p q)
    (orderly : Orderly tolerates key q.shared.history) :
    Pool.ReachesWithin (fun t => Orderly tolerates key t.history) p q := by
  induction run with
  | refl => exact .refl
  | tail _ step ih =>
    have before := orderly
    cases step
    exact (ih before.2).tail ⟨.call ‹_› ‹_›, orderly⟩

end Two

namespace RecordChange

variable {key : String} {fixed : String → Prop}

/-- Two operations, to be run by callers 0 and 1. -/
def pool (op : Nat → RecordChange key fixed) (s : Surroundings) : Pool Verdict where
  shared := s
  tasks i := if i ≤ 1 then (op i).program else .done .failed

theorem tasks_pool {op : Nat → RecordChange key fixed} {s : Surroundings} {i : Nat} (two : i ≤ 1) :
    (pool op s).tasks i = (op i).program := if_pos two

theorem tasks_pool_other {op : Nat → RecordChange key fixed} {s : Surroundings} {i : Nat} (other : ¬i ≤ 1) :
    (pool op s).tasks i = .done .failed := if_neg other

/-- An operation that wrote nothing can be run alone to the same end. -/
theorem runs_idle (op : RecordChange key fixed) {others : Table String} {s : Surroundings} (i : Nat) {v : Verdict}
    (still : Still fixed others s) (notDone : v ≠ .done)
    (refused : ∀ why, v = .refused why → op.decide others (s.values.get? key) = .refuse why)
    (failed : v = .failed → op.fallible) : ∃ t, Surroundings.Runs i op.program s v t ∧ t.values = s.values := by
  cases v with
  | done => exact absurd rfl notDone
  | refused why =>
    obtain ⟨v, t, run, rfl, same⟩ := Program.wp_angelic_iff.1 (op.refuses i still (refused why rfl))
    exact ⟨t, run, same⟩
  | failed =>
    obtain ⟨v, t, run, rfl, same⟩ := Program.wp_angelic_iff.1 (op.fails s i (failed rfl))
    exact ⟨t, run, same⟩

/-- An operation that wrote something can be run alone to the same end. -/
theorem runs_writing (op : RecordChange key fixed) {others : Table String} {s : Surroundings} (i : Nat)
    {results : Option String → Prop} {left : Option String} (still : Still fixed others s)
    (decided : op.decide others (s.values.get? key) = .write results) (result : results left) :
    ∃ t, Surroundings.Runs i op.program s .done t ∧ t.values.get? key = left ∧ Still fixed others t := by
  obtain ⟨v, t, run, rfl, same, still⟩ := Program.wp_angelic_iff.1 (op.writes i still decided result)
  exact ⟨t, run, same, still⟩

/-! ### Two operations, one after the other -/

variable {op : Nat → RecordChange key fixed} {others : Table String} {v : Nat → Verdict} {s : Surroundings}
  {left left' : Option String} {results : Option String → Prop}

/-- One after the other, from `s` on, two operations come to `v` and leave `last` as the record. -/
def InTurn (op : Nat → RecordChange key fixed) (v : Nat → Verdict) (s : Surroundings) (last : Option String) : Prop :=
  ∃ i j t u, i + j = 1 ∧ Surroundings.Runs i (op i).program s (v i) t ∧ Surroundings.Runs j (op j).program t (v j) u ∧
    u.values.get? key = last

/-- Two operations that write nothing can be run in turn. -/
theorem inTurn_of_idle (still : Still fixed others s) (notDone : ∀ i ≤ 1, v i ≠ .done)
    (failed : ∀ i ≤ 1, v i = .failed → (op i).fallible)
    (refused : ∀ i ≤ 1, ∀ why, v i = .refused why → (op i).decide others (s.values.get? key) = .refuse why) :
    InTurn op v s (s.values.get? key) := by
  obtain ⟨t, run, same⟩ :=
    (op 0).runs_idle 0 still (notDone 0 (by omega)) (refused 0 (by omega)) (failed 0 (by omega))
  obtain ⟨u, run', same'⟩ := (op 1).runs_idle 1 (still.of_values same) (notDone 1 (by omega))
    (by rw [same]; exact refused 1 (by omega)) (failed 1 (by omega))
  exact ⟨0, 1, t, u, rfl, run, run', by rw [same', same]⟩

/-- Of two operations, the one that writes nothing comes after the other, unless it was refused for what was there
    before. -/
theorem inTurn_of_write {i j : Nat} (two : i + j = 1) (still : Still fixed others s) (ended : v i = .done)
    (decided : (op i).decide others (s.values.get? key) = .write results) (result : results left)
    (notDone : v j ≠ .done) (failed : v j = .failed → (op j).fallible)
    (refused : (∀ why, v j = .refused why → (op j).decide others left = .refuse why) ∨
      ∀ why, v j = .refused why → (op j).decide others (s.values.get? key) = .refuse why) :
    InTurn op v s left := by
  rcases refused with after | before
  · obtain ⟨t, run, same, still'⟩ := (op i).runs_writing i still decided result
    obtain ⟨u, run', same'⟩ := (op j).runs_idle j still' notDone (by rw [same]; exact after) failed
    exact ⟨i, j, t, u, two, ended ▸ run, run', by rw [same', same]⟩
  · obtain ⟨t, run, values⟩ := (op j).runs_idle j still notDone before failed
    obtain ⟨u, run', left', -⟩ :=
      (op i).runs_writing i (still.of_values values) (by rw [values]; exact decided) result
    exact ⟨j, i, t, u, by omega, run, ended ▸ run', left'⟩

/-- An operation whose last text was replaced by one that it tolerates could as well have read the new one. -/
theorem decides_left {i j : Nat} {reads : List (Option String)} {first : Option String}
    (decided : (op i).decide others first = .write results) (result : results left)
    (founded : Founded ((op j).decide others) reads left') (knows : ReadsOf first left reads)
    (minded : reads.head? = some left ∨ reads.head? = some first ∧ (op j).tolerates left) :
    ∃ results', (op j).decide others left = .write results' ∧ results' left' := by
  rcases founded with ⟨x, results', last, decided', result'⟩ | ⟨last, x, member, firm⟩
  · rcases minded with now | ⟨before, tolerated⟩
    · cases last.symm.trans now
      exact ⟨results', decided', result'⟩
    · cases last.symm.trans before
      exact ⟨results', (op j).steady decided' tolerated, result'⟩
  · obtain ⟨isFirst, isLeft⟩ := vanished knows last member firm minded
    exact absurd (isFirst ▸ firm) ((op i).firm decided (isLeft ▸ result))

/-- Two operations that write can be run in turn if the later one follows from what the earlier one leaves. -/
theorem inTurn_of_writes {i j : Nat} {results' : Option String → Prop} (two : i + j = 1) (still : Still fixed others s)
    (ended : v i = .done) (decided : (op i).decide others (s.values.get? key) = .write results) (result : results left)
    (ended' : v j = .done) (decided' : (op j).decide others left = .write results') (result' : results' left') :
    InTurn op v s left' := by
  obtain ⟨t, run, same, still'⟩ := (op i).runs_writing i still decided result
  obtain ⟨u, run', same', -⟩ := (op j).runs_writing j still' (by rw [same]; exact decided') result'
  exact ⟨i, j, t, u, two, ended ▸ run, ended' ▸ run', same'⟩

/-- Where writes are orderly, the ledger accounts for the record, and each operation that has ended is justified by
    what it noted. -/
theorem accounted_of_reaches (unbegun : s.history = []) {q : Pool Verdict} (run : Pool.Reaches (pool op s) q)
    (orderly : Orderly (fun i => (op i).tolerates) key q.shared.history) (ends : ∀ i ≤ 1, q.tasks i = .done (v i)) :
    Ledger (fun i => (op i).tolerates) key (s.values.get? key) q.shared ∧ ∀ i ≤ 1,
      Justified ((op i).decide s.values) (op i).fallible (v i) (Notes.ofHistory i key q.shared.history) := by
  have start : Accounted (fun i => (op i).tolerates) key fixed s.values (s.values.get? key) s := by
    refine ⟨fun _ _ => rfl, .neither rfl fun i => ?_⟩
    rw [unbegun]
    exact ⟨rfl, nofun⟩
  have each (i : Nat) : Program.wp (among (fun i => (op i).tolerates) key fixed s.values (s.values.get? key) i)
      (fun v t => i ≤ 1 → Justified ((op i).decide s.values) (op i).fallible v (Notes.ofHistory i key t.history))
      ((pool op s).tasks i) s := by
    by_cases two : i ≤ 1
    · rw [tasks_pool two]
      refine Program.wp_mono (fun v t justified _ => justified) (wp_among two ?_)
      rw [unbegun]
      exact (op i).justified s.values
    · rw [tasks_pool_other two]
      exact fun other => absurd other two
  obtain ⟨accounted, justified⟩ := (orderly_within run orderly).safe
    (M := fun i s t => Notes.ofHistory i key t.history = Notes.ofHistory i key s.history)
    (Q := fun i v t => i ≤ 1 →
      Justified ((op i).decide s.values) (op i).fallible v (Notes.ofHistory i key t.history))
    (fun _ _ => rfl) (fun _ _ _ _ h h' => h'.trans h) (fun i v s t same h two => same ▸ h two) start each
  refine ⟨accounted.ledger, fun i two => ?_⟩
  have own := justified i
  rw [ends i two] at own
  exact own two

/-- Where writes are orderly, two operations have the same results and leave the same record as when they run one
    after the other. -/
theorem serializable (op : Nat → RecordChange key fixed) (s : Surroundings) (unbegun : s.history = [])
    {q : Pool Verdict} {v : Nat → Verdict} (run : Pool.Reaches (pool op s) q)
    (orderly : Orderly (fun i => (op i).tolerates) key q.shared.history)
    (ends : ∀ i ≤ 1, q.tasks i = .done (v i)) :
    InTurn op v s (q.shared.values.get? key) := by
  have still : Still fixed s.values s := fun _ _ => rfl
  obtain ⟨ledger, justified⟩ := accounted_of_reaches unbegun run orderly ends
  cases ledger with
  | neither value untold =>
    have idle (i : Nat) (two : i ≤ 1) := (justified i two).idle (untold i).changes
    rw [value]
    refine inTurn_of_idle still (fun i two => (idle i two).1) (fun i two => (idle i two).2.1) fun i two why refused => ?_
    rcases (idle i two).2.2 why refused with ⟨x, member, decided⟩ | decided
    · exact (untold i).reads x member ▸ decided
    · exact decided _
  | one i j two reads left value wrote knew waits knows minds =>
    obtain ⟨ended, founded⟩ := (justified i (by omega)).wrote wrote
    obtain ⟨results, decided, result⟩ := founded.of_all knew
    have waited := justified j (by omega)
    obtain ⟨notDone, failed, -⟩ := waited.idle waits
    rw [value]
    exact inTurn_of_write two still ended decided result notDone failed (waited.refused_of_readsOf waits knows)
  | both i j two reads reads' left left' value wrote knew wrote' knows minded =>
    obtain ⟨ended, founded⟩ := (justified i (by omega)).wrote wrote
    obtain ⟨results, decided, result⟩ := founded.of_all knew
    obtain ⟨ended', founded'⟩ := (justified j (by omega)).wrote wrote'
    obtain ⟨results', decided', result'⟩ := decides_left decided result founded' knows minded
    rw [value]
    exact inTurn_of_writes two still ended decided result ended' decided' result'
  | many i two more => exact absurd (justified i two).length_changes_le (Nat.not_le.2 more)

end RecordChange

/-! ## One operation on its own -/

/-- How the notes of an operation that runs alone fit what it found and what is there now. -/
inductive Solitary (key : String) (first : Option String) (n : Notes) (s : Surroundings) : Prop
  | idle (nothing : n.changes = []) (value : s.values.get? key = first) (knew : ∀ x ∈ n.reads, x = first)
  | wrote (reads : List (Option String)) (left : Option String) (once : n.changes = [(reads, left)])
      (value : s.values.get? key = left) (knew : ∀ x ∈ reads, x = first)
  /-- It has written twice, which none of the operations does. -/
  | many (more : 1 < n.changes.length)

theorem Solitary.after {key : String} {first : Option String} {n : Notes} {s : Surroundings} {i : Nat} {c : Call}
    {r : c.Answer} (h : Solitary key first n s) (allowed : s.Allows c r) :
    Solitary key first (n.add key ⟨0, c, r⟩) (s.after i c r) := by
  rw [Notes.add_asker n 0 i]
  have value := s.get?_after i c r key
  cases left : (Event.mk i c r).left? key with
  | some v =>
    rw [left] at value
    have changes : (n.add key ⟨i, c, r⟩).changes = (n.reads, v) :: n.changes := by simp [Notes.add, left]
    cases h with
    | idle nothing _ knew => exact .wrote n.reads v (by rw [changes, nothing]) value knew
    | wrote reads _ once _ _ => exact .many (by rw [changes, once]; simp)
    | many more => exact .many (by rw [changes, List.length_cons]; omega)
  | none =>
    rw [left] at value
    have changes := n.changes_add left
    cases h with
    | idle nothing same knew =>
      refine .idle (changes.trans nothing) (value.trans same) ?_
      rcases read?_of_allows (i := i) key allowed with unread | read
      · rw [n.reads_add unread]
        exact knew
      · rw [same] at read
        simpa [Notes.add, read] using knew
    | wrote reads v once same knew => exact .wrote reads v (changes.trans once) (value.trans same) knew
    | many more => exact .many (by rw [changes]; exact more)

theorem wp_solitary {α : Type} {key : String} {fixed : String → Prop} {others : Table String} {first : Option String} {i : Nat}
    {Q : α → Notes → Prop} {p : Program α} {n : Notes} {s : Surroundings}
    (h : Program.wp (watching key fixed others) Q p n) (still : Still fixed others s) (fits : Solitary key first n s) :
    Program.wp (Surroundings.alone i) (fun a t => ∃ m, Q a m ∧ Solitary key first m t) p s := by
  induction p generalizing n s with
  | done a => exact ⟨n, h, fits⟩
  | call c next ih =>
    obtain ⟨spares, rest⟩ := h
    refine Surroundings.alone_iff.2 fun r allowed => ?_
    exact ih r (rest r (agrees_of_still still allowed)) (still.after spares) (fits.after allowed)

/-- An operation that runs alone comes to what it decides by the record that it finds. -/
theorem RecordChange.decides_alone {key : String} {fixed : String → Prop} (op : RecordChange key fixed) {i : Nat}
    {s t : Surroundings} (run : Surroundings.Runs i op.program s .done t) :
    ∃ results, op.decide s.values (s.values.get? key) = .write results ∧ results (t.values.get? key) := by
  have ends := wp_solitary (i := i) (op.justified s.values) (fun _ _ => rfl) (.idle rfl rfl nofun)
  obtain ⟨m, ⟨reads, left, once, founded⟩, fits⟩ := Program.wp_demonic_iff.1 ends _ _ run
  cases fits with
  | idle nothing => cases nothing.symm.trans once
  | wrote reads' left' once' value knew =>
    cases once'.symm.trans once
    rw [value]
    exact founded.of_all knew
  | many more =>
    rw [once] at more
    exact absurd more (by simp)

theorem RecordChange.wp_decided {α : Type} {key : String} {fixed : String → Prop} (op : RecordChange key fixed) {p : Op α}
    (program : op.program = p.verdict) {i : Nat} {s : Surroundings} :
    Op.wp (Surroundings.alone i)
      (fun _ t => ∃ results, op.decide s.values (s.values.get? key) = .write results ∧ results (t.values.get? key))
      (fun _ _ => True) p s := by
  have ends : Program.wp (Surroundings.alone i)
      (fun v t => v = .done →
        ∃ results, op.decide s.values (s.values.get? key) = .write results ∧ results (t.values.get? key)) p.verdict s := by
    refine Program.wp_demonic_iff.2 fun v t run ended => ?_
    subst ended
    rw [← program] at run
    exact op.decides_alone run
  exact Op.wp_mono (Op.wp_verdict.1 ends) (fun _ _ decided => decided rfl) fun _ _ _ => trivial

end LeaseBroker
