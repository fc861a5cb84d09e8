import LeaseBroker.Doubles
import LeaseBroker.Table

/-!
# JSON values and their text

A number is an integer when its literal has neither fraction nor exponent and
fits 64 bits, signed or unsigned; any other number is a double. A literal may
also stand for nothing that can be held: a number beyond the doubles, or a text
with half a surrogate pair. Values are written without blanks.
-/

namespace LeaseBroker

inductive JsonNumber where
  | integer (n : Int)
  | double (d : Double)
  deriving DecidableEq, Repr

inductive Json where
  | null
  | bool (b : Bool)
  | number (n : JsonNumber)
  | string (s : String)
  | array (items : List Json)
  | object (fields : List (String × Json))
  | unreadable

namespace JsonNumber

/-- A natural number, for a literal without sign, fraction and exponent. -/
def toNat? : JsonNumber → Option Nat
  | integer n => if 0 ≤ n then some n.toNat else none
  | double _ => none

def toInt? : JsonNumber → Option Int
  | integer n => some n
  | double _ => none

def chars : JsonNumber → List Char
  | integer n => Integers.chars n
  | double d => d.text

def text (n : JsonNumber) : String := String.ofList n.chars

theorem toNat?_eq_some_iff {number : JsonNumber} {k : Nat} : number.toNat? = some k ↔ number = integer k := by
  cases number with
  | double d => exact iff_of_false nofun nofun
  | integer n =>
    rw [toNat?, integer.injEq]
    by_cases sign : 0 ≤ n
    · rw [if_pos sign, Option.some.injEq]
      omega
    · rw [if_neg sign]
      refine iff_of_false nofun ?_
      omega

end JsonNumber

namespace Json

def nat (n : Nat) : Json := number (.integer n)

def int (n : Int) : Json := number (.integer n)

def strings (ss : List String) : Json := array (ss.map string)

/-- The fields of a table in the order of their names. -/
def ofTable (t : Table Json) : Json := object t.entries

/-- The fields of an object by name, a later one before an earlier. -/
def toTable? : Json → Option (Table Json)
  | object fields => some (Table.ofList fields)
  | _ => none

/-! ## Text -/

def escape (c : Char) : List Char :=
  match c with
  | '"' => ['\\', '"']
  | '\\' => ['\\', '\\']
  | '\x08' => ['\\', 'b']
  | '\x0c' => ['\\', 'f']
  | '\n' => ['\\', 'n']
  | '\r' => ['\\', 'r']
  | '\t' => ['\\', 't']
  | c =>
    if c.toNat < 0x20 then ['\\', 'u', '0', '0', Nat.digitChar (c.toNat / 16), Nat.digitChar (c.toNat % 16)]
    else [c]

def quoted (s : String) : List Char := '"' :: s.toList.flatMap escape ++ ['"']

mutual

def chars : Json → List Char
  | null => ['n', 'u', 'l', 'l']
  | bool true => ['t', 'r', 'u', 'e']
  | bool false => ['f', 'a', 'l', 's', 'e']
  | number n => n.chars
  | string s => quoted s
  | array [] => ['[', ']']
  | array (v :: vs) => '[' :: chars v ++ itemsFrom vs
  | object [] => ['\x7b', '\x7d']
  | object ((k, v) :: fs) => '\x7b' :: quoted k ++ ':' :: chars v ++ fieldsFrom fs
  | unreadable => ['n', 'u', 'l', 'l']

/-- The items after the first, each behind a comma, and the closing bracket. -/
def itemsFrom : List Json → List Char
  | [] => [']']
  | v :: vs => ',' :: chars v ++ itemsFrom vs

/-- The fields after the first, each behind a comma, and the closing brace. -/
def fieldsFrom : List (String × Json) → List Char
  | [] => ['\x7d']
  | (k, v) :: fs => ',' :: quoted k ++ ':' :: chars v ++ fieldsFrom fs

end

def text (v : Json) : String := String.ofList v.chars

end Json

end LeaseBroker
