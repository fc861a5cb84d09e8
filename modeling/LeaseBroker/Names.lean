import LeaseBroker.Octets
import LeaseBroker.Quoted
import LeaseBroker.Uuid
import LeaseBroker.WordCharacters

/-!
# Names

A cluster, a database or a role is known by a name: word characters, dashes and
dots, of which the first and the last are word characters. A name therefore
never holds a slash or a colon and can stand alone in a path or a key. The
roles that the broker makes on a server carry a UUID, which keeps them apart as
long as the server's limit on identifiers leaves it whole.
-/

namespace LeaseBroker.Names

def isNameCharacter (c : Char) : Bool := isWordCharacter c || c == '-' || c == '.'

def isNameChars (cs : List Char) : Bool :=
  match cs.head?, cs.getLast? with
  | some first, some last => isWordCharacter first && isWordCharacter last && cs.all isNameCharacter
  | _, _ => false

def isName (s : String) : Bool := isNameChars s.toList

/-- The octets of an identifier that a server keeps. -/
def identifierLimit : Nat := 63

/-- The octets of a display name that go into a login. -/
def displayLimit : Nat := 26

def managementRole (id : Uuid) : String := Octets.truncate ("v-manage-" ++ id.text) identifierLimit

def objectsOwner (database : String) (id : Uuid) : String :=
  Octets.truncate ("v-objown-" ++ database ++ "-" ++ id.text) identifierLimit

def login (displayName : String) (id : Uuid) : String :=
  Octets.truncate (Octets.truncate displayName displayLimit ++ "-" ++ id.text) identifierLimit

theorem isNameCharacter_of_mem {s : String} (h : isName s = true) {c : Char} (hc : c ∈ s.toList) :
    isNameCharacter c = true := by
  unfold isName isNameChars at h
  split at h
  · simp only [Bool.and_eq_true, List.all_eq_true] at h
    exact h.2 c hc
  · simp at h

theorem slash_not_mem {s : String} (h : isName s = true) : '/' ∉ s.toList := by
  intro hc
  have := isNameCharacter_of_mem h hc
  simp [isNameCharacter, isWordCharacter_slash] at this

theorem colon_not_mem {s : String} (h : isName s = true) : ':' ∉ s.toList := by
  intro hc
  have := isNameCharacter_of_mem h hc
  simp [isNameCharacter, isWordCharacter_colon] at this

theorem not_isName_empty : isName "" = false := rfl

end LeaseBroker.Names
