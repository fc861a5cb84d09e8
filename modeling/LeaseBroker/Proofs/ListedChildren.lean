import LeaseBroker.Proofs.Listings

/-!
What a store lists after it was written to. The changes are what counts: what
lies under a key is what was put there last, unless it was deleted since or the
key is none (`contents`). From that alone it follows what is listed below any
text, names and subtrees apart, in order and each once; and the scan, which
starts and stops early, finds what looking at every key would find.
-/
namespace LeaseBroker.MemoryStore

/-- What is done to a store. -/
inductive Change where
  | put (key value : String)
  | delete (key : String)
  deriving DecidableEq, Repr

/-- The store after a change, made or refused. -/
def change (s : MemoryStore) : Change → MemoryStore
  | .put key value => (s.put key value).2
  | .delete key => (s.delete key).2

/-- A store that was empty, after some changes. -/
def reached (changes : List Change) : MemoryStore := changes.foldl change empty

/-- What lies under each key after a change, where it was known before. Nothing is put under the empty text, and nothing
    under one with a slash at its end. -/
def Change.leaves (held : String → Option String) : Change → String → Option String
  | put key value => fun other =>
    if other = key ∧ key ≠ "" ∧ key.toList.getLast? ≠ some '/' then some value else held other
  | delete key => fun other => if other = key then none else held other

/-- What lies under each key after some changes. -/
def contents (changes : List Change) : String → Option String := changes.foldl Change.leaves fun _ => none

/-- A store that is in reach holds what it should. -/
structure Holds (held : String → Option String) (s : MemoryStore) : Prop where
  available : s.unavailable = false
  values (key : String) : s.values.get? key = held key

theorem validKey_iff {key : String} : validKey key ↔ key ≠ "" ∧ key.toList.getLast? ≠ some '/' := by
  simp [validKey, StoreKeys.isSubtree]

theorem holds_empty : Holds (fun _ => none) empty := ⟨rfl, Table.get?_empty⟩

theorem Holds.change {held : String → Option String} {s : MemoryStore} (h : Holds held s) (c : Change) :
    Holds (c.leaves held) (s.change c) := by
  have checked {α : Type} (a : Except StoreError α) : s.checked a = a := by rw [MemoryStore.checked, h.available]; rfl
  cases c with
  | put key value =>
    rw [MemoryStore.change, put, checked]
    by_cases valid : validKey key
    · rw [if_pos valid]
      refine ⟨h.available, fun other => ?_⟩
      rw [Table.get?_insert, h.values]
      by_cases own : other = key
      · exact (if_pos own).trans (if_pos ⟨own, validKey_iff.1 valid⟩).symm
      · exact (if_neg own).trans (if_neg fun put => own put.1).symm
    · rw [if_neg valid]
      exact ⟨h.available, fun other => (h.values other).trans (if_neg fun put => valid (validKey_iff.2 put.2)).symm⟩
  | delete key =>
    rw [MemoryStore.change, delete, checked]
    exact ⟨h.available, fun other => by rw [Table.get?_erase, h.values]; rfl⟩

theorem holds_reached (changes : List Change) : Holds (contents changes) (reached changes) := by
  have onward (held : String → Option String) (s : MemoryStore) (h : Holds held s) :
      Holds (changes.foldl Change.leaves held) (changes.foldl change s) := by
    induction changes generalizing held s with
    | nil => exact h
    | cons c changes ih => exact ih _ _ (h.change c)
  exact onward _ _ holds_empty

namespace Holds

variable {held : String → Option String} {s : MemoryStore} (h : Holds held s)
include h

theorem get (key : String) : s.get key = .ok (held key) := by
  rw [MemoryStore.get, checked, h.available, h.values]
  rfl

theorem list (above : String) : s.list above = .ok (children s.values above) := by
  rw [MemoryStore.list, checked, h.available]
  rfl

end Holds

/-- After any changes, a store that is asked what is below a text names each child once and in ascending order: a name
    without a slash where something lies under the text with that name, and a name with a slash where there is a key
    below that. Nothing else is named, and nothing is missed where the scan stops. -/
theorem children_listed (changes : List Change) (above : String) :
    (∀ key, (reached changes).get key = .ok (contents changes key)) ∧
    ∃ entries, (reached changes).list above = .ok entries ∧ entries.Pairwise (· < ·) ∧
      (∀ name : String, '/' ∉ name.toList →
        (name ∈ entries ↔ ∃ text, contents changes (above ++ name) = some text) ∧
        (name ++ "/" ∈ entries ↔
          ∃ key text, contents changes key = some text ∧ (above ++ name ++ "/").toList <+: key.toList)) ∧
      (∀ entry ∈ entries, ∃ name : String, '/' ∉ name.toList ∧ (entry = name ∨ entry = name ++ "/")) ∧
      childrenFrom above ((reached changes).values.keys.dropWhile (· < above)) =
        (reached changes).values.keys.filterMap (child? above) := by
  have h := holds_reached changes
  refine ⟨h.get, _, h.list above, children_ascending _ above, fun name bare => ⟨?_, ?_⟩, ?_, scan_eq_filterMap _ above⟩
  · rw [mem_children_of_bare bare, h.values]
  · rw [mem_children_slash_iff bare]
    simp only [h.values]
  · exact fun entry member => bare_of_mem_children member

/-- Keys beside a text, below it and two steps below it, one of them deleted and one no key. -/
def exampleChanges : List Change :=
  [.put "a" "1", .put "a/b" "2", .put "a/b/c" "3", .put "a/b/d" "4", .put "a/é/x" "5", .put "a/z" "6", .put "a-b" "7",
    .put "ab" "8", .delete "a/z", .put "a/" "9"]

theorem children_listed_below : (reached exampleChanges).list "a/" = .ok ["b", "b/", "é/"] ∧
    ∃ entries, (reached exampleChanges).list "a/" = .ok entries ∧ "b" ∈ entries ∧ "é" ++ "/" ∈ entries ∧ "z" ∉ entries := by
  obtain ⟨-, entries, listed, -, named, -⟩ := children_listed exampleChanges "a/"
  have stored : contents exampleChanges ("a/" ++ "b") = some "2" := by decide +kernel
  have below : contents exampleChanges "a/é/x" = some "5" ∧ ("a/" ++ "é" ++ "/").toList <+: "a/é/x".toList := by
    decide +kernel
  have deleted : contents exampleChanges ("a/" ++ "z") = none := by decide +kernel
  have all : children (reached exampleChanges).values "a/" = ["b", "b/", "é/"] := by decide +kernel
  refine ⟨((holds_reached _).list "a/").trans (congrArg Except.ok all), entries, listed, (named "b" (by decide)).1.2 ⟨_, stored⟩,
    (named "é" (by decide)).2.2 ⟨_, _, below⟩, fun member => ?_⟩
  obtain ⟨text, found⟩ := (named "z" (by decide)).1.1 member
  cases deleted.symm.trans found

end LeaseBroker.MemoryStore
