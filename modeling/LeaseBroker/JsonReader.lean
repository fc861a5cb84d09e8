import LeaseBroker.Json

/-!
# Reading JSON text

A reader takes one value off the front of the characters and gives it with what
follows. Nesting may be as deep as the text is long. A text or a number that is
well formed but stands for nothing reads as `unreadable`, and so does an object
with such a name.
-/

namespace LeaseBroker.JsonReader

def isSpace (c : Char) : Bool := c == ' ' || c == '\n' || c == '\t' || c == '\r'

def skip (cs : List Char) : List Char := cs.dropWhile isSpace

/-! ## Texts -/

/-- A character, or a number of 16 bits written in hexadecimal. -/
inductive CodeUnit where
  | char (c : Char)
  | word (n : Nat)
  deriving DecidableEq, Repr

def hexValue? (c : Char) : Option Nat :=
  if '0' ≤ c ∧ c ≤ '9' then some (c.toNat - '0'.toNat)
  else if 'a' ≤ c ∧ c ≤ 'f' then some (c.toNat - 'a'.toNat + 10)
  else if 'A' ≤ c ∧ c ≤ 'F' then some (c.toNat - 'A'.toNat + 10)
  else none

def escaped? : Char → Option Char
  | '"' => some '"'
  | '\\' => some '\\'
  | '/' => some '/'
  | 'b' => some '\x08'
  | 'f' => some '\x0c'
  | 'n' => some '\n'
  | 'r' => some '\r'
  | 't' => some '\t'
  | _ => none

def hexWord? (a b c d : Char) : Option Nat := do
  return ((← hexValue? a) * 16 + (← hexValue? b)) * 256 + (← hexValue? c) * 16 + (← hexValue? d)

/-- The units of a text up to its closing quote. -/
def units : List Char → Option (List CodeUnit × List Char)
  | [] => none
  | '"' :: r => some ([], r)
  | '\\' :: 'u' :: a :: b :: c :: d :: r => do
    let n ← hexWord? a b c d
    let (us, r) ← units r
    return (.word n :: us, r)
  | '\\' :: e :: r => do
    let c ← escaped? e
    let (us, r) ← units r
    return (.char c :: us, r)
  | c :: r =>
    if c.toNat < 0x20 then none
    else do
      let (us, r) ← units r
      return (.char c :: us, r)

def isHigh (n : Nat) : Bool := 0xd800 ≤ n && n ≤ 0xdbff

def isLow (n : Nat) : Bool := 0xdc00 ≤ n && n ≤ 0xdfff

/-- The characters of the units; none when half a surrogate pair stands alone. -/
def characters? : List CodeUnit → Option (List Char)
  | [] => some []
  | .char c :: us => (c :: ·) <$> characters? us
  | .word h :: .word l :: us =>
    if isHigh h && isLow l then
      (Char.ofNat (0x10000 + (h - 0xd800) * 0x400 + (l - 0xdc00)) :: ·) <$> characters? us
    else if isHigh h || isLow h then none
    else (Char.ofNat h :: ·) <$> characters? (.word l :: us)
  | .word h :: us => if isHigh h || isLow h then none else (Char.ofNat h :: ·) <$> characters? us

/-- The text behind an opening quote. -/
def text (cs : List Char) : Option (Option String × List Char) :=
  (units cs).map fun (us, r) => ((characters? us).map String.ofList, r)

/-! ## Numbers -/

/-- The digits of a whole part: a zero alone, or a run that starts with none. -/
def wholeDigits : List Char → Option (List Char × List Char)
  | '0' :: r => some (['0'], r)
  | cs =>
    match cs.takeWhile Char.isDigit with
    | [] => none
    | ds => some (ds, cs.dropWhile Char.isDigit)

/-- Digits of which there is at least one. -/
def someDigits (cs : List Char) : Option (List Char × List Char) :=
  match cs.takeWhile Char.isDigit with
  | [] => none
  | ds => some (ds, cs.dropWhile Char.isDigit)

def fractionDigits : List Char → Option (List Char × List Char)
  | '.' :: r => someDigits r
  | cs => some ([], cs)

/-- The value of a signed run of digits. -/
def signedDigits : List Char → Option (Int × List Char)
  | '-' :: r => (someDigits r).map fun (ds, r) => (-(Integers.value ds : Int), r)
  | '+' :: r => (someDigits r).map fun (ds, r) => ((Integers.value ds : Int), r)
  | r => (someDigits r).map fun (ds, r) => ((Integers.value ds : Int), r)

def exponentPart : List Char → Option (Option Int × List Char)
  | 'e' :: r => (signedDigits r).map fun (e, r) => (some e, r)
  | 'E' :: r => (signedDigits r).map fun (e, r) => (some e, r)
  | cs => some (none, cs)

def double (negative : Bool) (whole fraction : List Char) (exponent : Int) : Json :=
  match Double.ofLiteral negative whole fraction exponent with
  | some d => .number (.double d)
  | none => .unreadable

/-- A literal without fraction and exponent. A negative zero is a double. -/
def wholeNumber (negative : Bool) (whole : List Char) : Json :=
  let n := Integers.value whole
  if negative then
    if 0 < n && n ≤ 0x8000000000000000 then .number (.integer (-(n : Int))) else double true whole [] 0
  else if n < UInt64.size then .number (.integer n) else double false whole [] 0

def unsignedNumber (negative : Bool) (cs : List Char) : Option (Json × List Char) := do
  let (whole, r) ← wholeDigits cs
  let (fraction, r) ← fractionDigits r
  let (exponent, r) ← exponentPart r
  return match fraction, exponent with
    | [], none => (wholeNumber negative whole, r)
    | _, _ => (double negative whole fraction (exponent.getD 0), r)

def number : List Char → Option (Json × List Char)
  | '-' :: r => unsignedNumber true r
  | cs => unsignedNumber false cs

/-! ## Values -/

/-- An object of these fields, unless one of the names has no text. -/
def objectOf (fs : List (Option String × Json)) : Json :=
  match fs.mapM fun f => f.1.map fun k => (k, f.2) with
  | some fields => .object fields
  | none => .unreadable

mutual

/-- A value, with blanks before it skipped; `depth` bounds the steps. -/
def value : Nat → List Char → Option (Json × List Char)
  | 0, _ => none
  | depth + 1, cs =>
    match skip cs with
    | 'n' :: 'u' :: 'l' :: 'l' :: r => some (.null, r)
    | 't' :: 'r' :: 'u' :: 'e' :: r => some (.bool true, r)
    | 'f' :: 'a' :: 'l' :: 's' :: 'e' :: r => some (.bool false, r)
    | '"' :: r => (text r).map fun (s, r) => (match s with | some s => .string s | none => .unreadable, r)
    | '[' :: r =>
      match skip r with
      | ']' :: r => some (.array [], r)
      | r => (items depth r).map fun (vs, r) => (.array vs, r)
    | '\x7b' :: r =>
      match skip r with
      | '\x7d' :: r => some (.object [], r)
      | r => (fields depth r).map fun (fs, r) => (objectOf fs, r)
    | r => number r

/-- Items up to the closing bracket, of which there is at least one. -/
def items : Nat → List Char → Option (List Json × List Char)
  | 0, _ => none
  | depth + 1, cs => do
    let (v, r) ← value depth cs
    match skip r with
    | ',' :: r => (items depth r).map fun (vs, r) => (v :: vs, r)
    | ']' :: r => some ([v], r)
    | _ => none

/-- Fields up to the closing brace, of which there is at least one. -/
def fields : Nat → List Char → Option (List (Option String × Json) × List Char)
  | 0, _ => none
  | depth + 1, cs =>
    match skip cs with
    | '"' :: r => do
      let (k, r) ← text r
      match skip r with
      | ':' :: r => do
        let (v, r) ← value depth r
        match skip r with
        | ',' :: r => (fields depth r).map fun (fs, r) => ((k, v) :: fs, r)
        | '\x7d' :: r => some ([(k, v)], r)
        | _ => none
      | _ => none
    | _ => none

end

/-- The value that the whole text stands for. -/
def ofText (s : String) : Option Json :=
  match value (2 * s.length + 2) s.toList with
  | some (v, r) => if (skip r).isEmpty then some v else none
  | none => none

end LeaseBroker.JsonReader
