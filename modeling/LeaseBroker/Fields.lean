import LeaseBroker.Blank
import LeaseBroker.Json
import LeaseBroker.Refusal
import LeaseBroker.Span

/-!
# Request fields

Hosts are loose about types: a number or a switch may come as text, a duration
with a unit, a list as its only element. A field that is absent or `null` is
not given. What cannot be read as wanted is refused under the field's name.
-/

namespace LeaseBroker.Fields

/-- The fields of a request by name. -/
abbrev Data := Table Json

/-- The value of a field that is given. -/
def given? (data : Data) (key : String) : Option Json :=
  match data.get? key with
  | none => none
  | some .null => none
  | some v => some v

def expected {α : Type} (key what : String) : Except Refusal α := .error (.fieldExpected key what)

def string (data : Data) (key : String) : Except Refusal (Option String) :=
  match given? data key with
  | none => .ok none
  | some (.string s) => .ok (some s)
  | some (.number n) => .ok (some n.text)
  | some (.bool b) => .ok (some (if b then "true" else "false"))
  | some _ => expected key "a string"

def stringOr (data : Data) (key default : String) : Except Refusal String := do
  return (← string data key).getD default

/-- Whether `n` is in the range of signed 64-bit integers. -/
def inInt64 (n : Int) : Bool := -0x8000000000000000 ≤ n && n < 0x8000000000000000

def intOr (data : Data) (key : String) (default : Int) : Except Refusal Int :=
  match given? data key with
  | none => .ok default
  | some (.number (.integer n)) => if inInt64 n then .ok n else expected key "an integer"
  | some (.string s) =>
    match Integers.signed 0x7fffffffffffffff (Blank.trimText s) with
    | .ok n => .ok n
    | .error _ => expected key "an integer"
  | some _ => expected key "an integer"

def uintOr (data : Data) (key : String) (default : UInt32) : Except Refusal UInt32 := do
  let n ← intOr data key default.toNat
  if 0 ≤ n && n < UInt32.size then return .ofNat n.toNat
  else expected key "a non-negative integer"

def boolOr (data : Data) (key : String) (default : Bool) : Except Refusal Bool :=
  match given? data key with
  | none => .ok default
  | some (.bool b) => .ok b
  | some (.string s) =>
    match Blank.trimText s with
    | "true" => .ok true
    | "1" => .ok true
    | "false" => .ok false
    | "0" => .ok false
    | _ => expected key "a boolean"
  | some _ => expected key "a boolean"

/-- The seconds in a unit of durations; seconds need no unit. -/
def unitSeconds? : List Char → Option Nat
  | [] => some 1
  | ['s'] => some 1
  | ['m'] => some 60
  | ['h'] => some 3600
  | ['d'] => some 86400
  | _ => none

/-- Digits with a unit behind them, below 2⁶⁴ seconds. -/
def durationText? (s : String) : Option Span := do
  let cs := Blank.trim s.toList
  let digits := cs.takeWhile Char.isDigit
  if digits.isEmpty then none
  else
    let n ← (Integers.scan (UInt64.size - 1) .tooLarge 0 digits).toOption
    let scale ← unitSeconds? (cs.dropWhile Char.isDigit)
    if n * scale < UInt64.size then some (.ofSecs (.ofNat (n * scale))) else none

def duration (data : Data) (key : String) : Except Refusal (Option Span) :=
  match given? data key with
  | none => .ok none
  | some (.number n) =>
    match n.toNat?.filter (· < UInt64.size) with
    | some k => .ok (some (.ofSecs (.ofNat k)))
    | none => expected key "a non-negative duration"
  | some (.string s) =>
    match durationText? s with
    | some d => .ok (some d)
    | none => expected key "a duration"
  | some _ => expected key "a duration"

def element (key : String) : Json → Except Refusal String
  | .string s => .ok s
  | _ => expected key "a list of strings"

/-- A text alone is a list of one, because statements may hold commas; a blank text is an empty list. -/
def stringList (data : Data) (key : String) : Except Refusal (List String) :=
  match given? data key with
  | none => .ok []
  | some (.string s) => .ok (if Blank.isBlankText s then [] else [s])
  | some (.array items) => items.mapM (element key)
  | some _ => expected key "a list of strings"

def pair (key : String) (field : String × Json) : Except Refusal (String × String) :=
  match field.2 with
  | .string s => .ok (field.1, s)
  | _ => .error (.fieldNotPairs key)

def pairs (data : Data) (key : String) : Except Refusal (Option (Table String)) :=
  match given? data key with
  | none => .ok none
  | some (.object fields) => return some (Table.ofList (← (Table.ofList fields).entries.mapM (pair key)))
  | some _ => .error (.fieldNotPairs key)

end LeaseBroker.Fields
