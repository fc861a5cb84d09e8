import LeaseBroker.Unprintable

/-!
# Quoted texts

A message that names a value shows it between double quotes. The quotes and
backslashes inside it are escaped, and a character that could not be seen is
written by its number.
-/

namespace LeaseBroker.Quoted

/-- The digits of `n` to base sixteen, in lower case. -/
def hex (n : Nat) : List Char := Nat.toDigits 16 n

def escape (c : Char) : List Char :=
  match c with
  | '\x00' => ['\\', '0']
  | '\t' => ['\\', 't']
  | '\r' => ['\\', 'r']
  | '\n' => ['\\', 'n']
  | '"' => ['\\', '"']
  | '\\' => ['\\', '\\']
  | c => if isExtending c || isUnprintable c then ['\\', 'u', '\x7b'] ++ hex c.toNat ++ ['\x7d'] else [c]

def quote (s : String) : String := String.ofList ('"' :: s.toList.flatMap escape ++ ['"'])

end LeaseBroker.Quoted
