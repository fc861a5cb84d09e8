/-!
# SQL fragments

A value goes into a statement as an identifier or as a string literal, never as
bare text. An identifier ends at the first NUL and doubles its quotes. A
literal doubles its quotes, and where it holds a backslash it becomes an escape
string, with the backslashes doubled too.
-/

namespace LeaseBroker

inductive Fragment where
  | identifier (name : String)
  | literal (value : String)
  deriving DecidableEq, Repr

namespace Fragment

/-- Writes every `q` twice. -/
def double (q : Char) (cs : List Char) : List Char := cs.flatMap fun c => if c = q then [q, q] else [c]

def identifierChars (cs : List Char) : List Char :=
  '"' :: double '"' (cs.takeWhile (· ≠ '\x00')) ++ ['"']

def literalChars (cs : List Char) : List Char :=
  if '\\' ∈ cs then ' ' :: 'E' :: '\'' :: double '\\' (double '\'' cs) ++ ['\'']
  else '\'' :: double '\'' cs ++ ['\'']

def chars : Fragment → List Char
  | identifier name => identifierChars name.toList
  | literal value => literalChars value.toList

def sql (f : Fragment) : String := String.ofList f.chars

theorem double_append (q : Char) (cs ds : List Char) : double q (cs ++ ds) = double q cs ++ double q ds := by
  simp [double]

theorem double_eq_self {q : Char} {cs : List Char} (h : q ∉ cs) : double q cs = cs := by
  induction cs with
  | nil => rfl
  | cons c cs ih =>
    simp only [List.mem_cons, not_or] at h
    have := ih h.2
    simp only [double, List.flatMap_cons] at this ⊢
    rw [this, if_neg (Ne.symm h.1)]
    rfl

end Fragment

/-- Fragments by the name of the slot they fill; the newest of a name counts. -/
abbrev Bindings := List (String × Fragment)

namespace Bindings

def empty : Bindings := []

def identifier (b : Bindings) (slot name : String) : Bindings := (slot, .identifier name) :: b

def literal (b : Bindings) (slot value : String) : Bindings := (slot, .literal value) :: b

def get? (b : Bindings) (slot : String) : Option Fragment := b.lookup slot

end Bindings

end LeaseBroker
