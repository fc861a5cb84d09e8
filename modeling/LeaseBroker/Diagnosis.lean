import LeaseBroker.JsonReader
import LeaseBroker.Quoted

/-!
# Where a stored record breaks off

When a text is not a record, the first fault met from left to right is named
with its line and column. Columns count the octets that were read on the line,
the offending one included where it was only looked at. Values of declared
fields are judged as they are met; whether a field is missing is judged at the
end of the record.
-/

namespace LeaseBroker.Diagnosis

/-- What the value of a field should be. -/
inductive Shape where
  | text
  /-- A switch that may be `null`. -/
  | flag
  deriving DecidableEq, Repr

structure Field where
  name : String
  shape : Shape
  /-- Whether the record may go without it. -/
  optional : Bool
  deriving DecidableEq, Repr

/-- The name of a kind of record, as faults mention it, and its fields. -/
structure Form where
  name : String
  fields : List Field
  deriving DecidableEq, Repr

/-- Where reading has come to. -/
structure Cursor where
  rest : List Char
  line : Nat
  column : Nat
  deriving Repr

/-- What was wrong; a fault that concerns a whole value gets its place later. -/
structure Fault where
  words : String
  place : Option (Nat × Nat)
  deriving DecidableEq, Repr

/-- A step of reading: the cursor it reaches, with a result or a fault. -/
abbrev Read (α : Type) := Cursor → Except Fault α × Cursor

namespace Cursor

def start (s : String) : Cursor := ⟨s.toList, 1, 0⟩

/-- Moves over one octet, of which a line feed ends the line. -/
def past (k : Cursor) (octet : Char) : Cursor :=
  if octet = '\n' then { k with line := k.line + 1, column := 0 } else { k with column := k.column + 1 }

/-- Moves over the next character. -/
def next (k : Cursor) : Cursor :=
  match k.rest with
  | [] => k
  | c :: r =>
    if c = '\n' then ⟨r, k.line + 1, 0⟩ else ⟨r, k.line, k.column + c.utf8Size⟩

def here (k : Cursor) : Nat × Nat := (k.line, k.column)

/-- The place just behind the next octet, or this one at the end. -/
def ahead (k : Cursor) : Nat × Nat :=
  match k.rest with
  | [] => k.here
  | c :: _ => (k.past c).here

end Cursor

def fail {α : Type} (words : String) : Read α := fun k => (.error ⟨words, some k.here⟩, k)

def failAhead {α : Type} (words : String) : Read α := fun k => (.error ⟨words, some k.ahead⟩, k)

/-- A fault without a place of its own. -/
def failWhole {α : Type} (words : String) : Read α := fun k => (.error ⟨words, none⟩, k)

def andThen {α β : Type} (r : Read α) (f : α → Read β) : Read β := fun k =>
  match r k with
  | (.ok a, k) => f a k
  | (.error e, k) => (.error e, k)

instance : Monad Read where
  pure a := fun k => (.ok a, k)
  bind := andThen

/-- Gives a fault that has no place the one now reached. -/
def placed {α : Type} (r : Read α) : Read α := fun k =>
  match r k with
  | (.error ⟨words, none⟩, k) => (.error ⟨words, some k.here⟩, k)
  | other => other

def peek : Read (Option Char) := fun k => (.ok k.rest.head?, k)

def eat : Read Unit := fun k => (.ok (), k.next)

/-- The next character that is no blank, still ahead. -/
def peekSolid : Read (Option Char) := fun k =>
  let k := (k.rest.takeWhile JsonReader.isSpace).foldl (fun k _ => k.next) k
  (.ok k.rest.head?, k)

/-- Moves over the characters on which `p` holds and gives them. -/
def run (p : Char → Bool) : Read (List Char) := fun k =>
  let cs := k.rest.takeWhile p
  (.ok cs, cs.foldl (fun k _ => k.next) k)

/-! ## Words, texts and numbers -/

/-- The rest of one of the words for `null`, `true` and `false`. -/
def word : List Char → Read Unit
  | [] => pure ()
  | c :: cs => do
    match ← peek with
    | none => fail "EOF while parsing a value"
    | some d =>
      if d = c then do
        eat
        word cs
      else failAhead "expected ident"

/-- The octets of a character, of which only the first can be told from others. -/
def octets (c : Char) : List Char := c :: List.replicate (c.utf8Size - 1) '\x80'

/-- The number of four hexadecimal digits. -/
def hexWord : Read Nat := fun k =>
  let four := (k.rest.take 4).flatMap octets |>.take 4
  let past := four.foldl Cursor.past k
  if four.length < 4 then
    let k := k.rest.foldl (fun k _ => k.next) k
    fail "EOF while parsing a string" k
  else match k.rest with
    | a :: b :: c :: d :: r =>
      match JsonReader.hexWord? a b c d with
      | some n => (.ok n, { past with rest := r })
      | none => fail "invalid escape" past
    | _ => fail "invalid escape" past

/-- The second half of a surrogate pair. -/
def lowHalf (high : Nat) : Read Char := do
  match ← peek with
  | none => fail "EOF while parsing a string"
  | some '\\' => do
    eat
    match ← peek with
    | none => fail "EOF while parsing a string"
    | some 'u' => do
      eat
      let low ← hexWord
      if JsonReader.isLow low then pure (Char.ofNat (0x10000 + (high - 0xd800) * 0x400 + (low - 0xdc00)))
      else fail "lone leading surrogate in hex escape"
    | some _ => failAhead "unexpected end of hex escape"
  | some _ => failAhead "unexpected end of hex escape"

/-- The character of an escape. A text that is passed over may hold halves of pairs. -/
def escape (strict : Bool) : Read Char := do
  match ← peek with
  | none => fail "EOF while parsing a string"
  | some 'u' => do
    eat
    let n ← hexWord
    if !strict then pure (Char.ofNat n)
    else if JsonReader.isLow n then fail "lone leading surrogate in hex escape"
    else if JsonReader.isHigh n then lowHalf n
    else pure (Char.ofNat n)
  | some c =>
    match JsonReader.escaped? c with
    | some c => do
      eat
      pure c
    | none => failAhead "invalid escape"

/-- The characters of a text up to its closing quote; `steps` bounds their number. -/
def text (strict : Bool) : Nat → Read (List Char)
  | 0 => fail "EOF while parsing a string"
  | steps + 1 => do
    match ← peek with
    | none => fail "EOF while parsing a string"
    | some '"' => do
      eat
      pure []
    | some '\\' => do
      eat
      let c ← escape strict
      let cs ← text strict steps
      pure (c :: cs)
    | some c =>
      if c.toNat < 0x20 then
        (if strict then failAhead else fail) "control character (\\u0000-\\u001F) found while parsing a string"
      else do
        eat
        let cs ← text strict steps
        pure (c :: cs)

def wholeText (strict : Bool) : Read (List Char) := fun k => text strict (k.rest.length + 1) k

/-- The largest exponent that can be held. -/
def exponentLimit : Nat := 0x7fffffff

/-- How many of the digits that follow a number `n` can be read without passing the limit. -/
def digitsWithinLimit : Nat → List Char → Nat
  | _, [] => 0
  | n, c :: cs =>
    if exponentLimit < 10 * n + Integers.digitValue c then 0
    else digitsWithinLimit (10 * n + Integers.digitValue c) cs + 1

/-- The number of the digits ahead. Where the limit counts, it is refused at the first digit that passes it. -/
def exponentDigits (limited : Bool) : Read Nat := fun k =>
  let ds := k.rest.takeWhile Char.isDigit
  let within := digitsWithinLimit 0 ds
  if limited && within < ds.length then
    fail "number out of range" ((ds.take (within + 1)).foldl (fun k _ => k.next) k)
  else (.ok (Integers.value ds), ds.foldl (fun k _ => k.next) k)

/-- The digits of an exponent, behind its letter. It may be of any size when it is passed over, when it makes the
number small, or when all other digits are zero. -/
def exponent (passing zero : Bool) : Read Int := do
  eat
  let negative ← peek
  if negative = some '-' || negative = some '+' then eat
  match ← peek with
  | none => fail (if passing then "invalid number" else "EOF while parsing a value")
  | some c =>
    if Char.isDigit c then do
      let n : Int := ← exponentDigits (!passing && !zero && negative ≠ some '-')
      pure (if negative = some '-' then -n else n)
    else failAhead "invalid number"

def optionalExponent (passing zero : Bool) : Read (Option Int) := do
  match ← peek with
  | some 'e' => some <$> exponent passing zero
  | some 'E' => some <$> exponent passing zero
  | _ => pure none

/-- The digits behind a point, if there is one. -/
def fraction (passing : Bool) : Read (List Char) := do
  match ← peek with
  | some '.' => do
    eat
    match ← run Char.isDigit with
    | [] =>
      match ← peek with
      | some _ => failAhead "invalid number"
      | none => failAhead (if passing then "invalid number" else "EOF while parsing a value")
    | ds => pure ds
  | _ => pure []

def whole (passing : Bool) : Read (List Char) := do
  match ← peek with
  | none => fail (if passing then "invalid number" else "EOF while parsing a value")
  | some '0' => do
    eat
    match ← peek with
    | some c => if Char.isDigit c then failAhead "invalid number" else pure ['0']
    | none => pure ['0']
  | some c => if Char.isDigit c then run Char.isDigit else failAhead "invalid number"

/-- A number behind its sign. One that is passed over may be of any size. -/
def number (passing negative : Bool) : Read Json := do
  let ds ← whole passing
  let fs ← fraction passing
  let e ← optionalExponent passing ((ds ++ fs).all (· == '0'))
  let v := match fs, e with
    | [], none => JsonReader.wholeNumber negative ds
    | _, _ => JsonReader.double negative ds fs (e.getD 0)
  match v with
  | .unreadable => if passing then pure v else fail "number out of range"
  | v => pure v

/-! ## Values of the wrong type -/

def wrongType {α : Type} (found expected : String) : Read α :=
  failWhole ("invalid type: " ++ found ++ ", expected " ++ expected)

/-- Names the value that stands where `expected` should. -/
def mistyped {α : Type} (expected : String) : Read α :=
  placed do
    match ← peek with
    | some 'n' => do
      eat
      word ['u', 'l', 'l']
      wrongType "null" expected
    | some 't' => do
      eat
      word ['r', 'u', 'e']
      wrongType "boolean `true`" expected
    | some 'f' => do
      eat
      word ['a', 'l', 's', 'e']
      wrongType "boolean `false`" expected
    | some '"' => do
      eat
      let cs ← wholeText true
      wrongType ("string " ++ Quoted.quote (String.ofList cs)) expected
    | some '[' => wrongType "sequence" expected
    | some '\x7b' => wrongType "map" expected
    | some c =>
      if c = '-' || Char.isDigit c then do
        if c = '-' then eat
        match ← number false (c = '-') with
        | .number (.integer n) => wrongType s!"integer `{n}`" expected
        | .number (.double d) => wrongType ("floating point `" ++ String.ofList d.text ++ "`") expected
        | _ => fail "number out of range"
      else failAhead "expected value"
    | none => failAhead "expected value"

/-- The value of a declared field. -/
def fieldValue (shape : Shape) : Read Unit := do
  match shape, ← peekSolid with
  | _, none => failAhead "EOF while parsing a value"
  | .text, some '"' => do
    eat
    let _ ← wholeText true
    pure ()
  | .text, some _ => mistyped "a string"
  | .flag, some 'n' => do
    eat
    word ['u', 'l', 'l']
  | .flag, some 't' => do
    eat
    word ['r', 'u', 'e']
  | .flag, some 'f' => do
    eat
    word ['a', 'l', 's', 'e']
  | .flag, some _ => mistyped "a boolean"

/-! ## Values that are passed over -/

/-- The brackets that are open around a value. -/
inductive Bracket where
  | square
  | curly
  deriving DecidableEq, Repr

def Bracket.close : Bracket → Char
  | square => ']'
  | curly => '\x7d'

/-- The name of a field and the colon behind it. -/
def passName : Read Unit := do
  match ← peekSolid with
  | some '"' => do
    eat
    let _ ← wholeText false
    match ← peekSolid with
    | some ':' => eat
    | some _ => failAhead "expected `:`"
    | none => failAhead "EOF while parsing an object"
  | some _ => failAhead "key must be a string"
  | none => failAhead "EOF while parsing an object"

/-- What may follow inside the innermost bracket: closing ones, and then a comma. The result are the
brackets that stay open around the next value, or none at the end of the outermost. -/
def passBetween (comma : Bool) : List Bracket → Read (List Bracket)
  | [] => pure []
  | b :: outer => do
    match ← peekSolid with
    | none =>
      failAhead (match b with
        | .square => "EOF while parsing a list"
        | .curly => "EOF while parsing an object")
    | some c =>
      if c = ',' && comma then do
        eat
        pure (b :: outer)
      else if c = b.close then do
        eat
        passBetween true outer
      else if comma then
        failAhead (match b with
          | .square => "expected `,` or `]`"
          | .curly => "expected `,` or `\x7d`")
      else pure (b :: outer)

/-- A value of any kind inside the open brackets; `steps` bounds the values. -/
def passValue : Nat → List Bracket → Read Unit
  | 0, _ => pure ()
  | steps + 1, open_ => do
    let (comma, inside) ← (do
      match ← peekSolid with
      | none => failAhead "EOF while parsing a value"
      | some 'n' => do
        eat
        word ['u', 'l', 'l']
        pure (true, open_)
      | some 't' => do
        eat
        word ['r', 'u', 'e']
        pure (true, open_)
      | some 'f' => do
        eat
        word ['a', 'l', 's', 'e']
        pure (true, open_)
      | some '"' => do
        eat
        let _ ← wholeText false
        pure (true, open_)
      | some '[' => do
        eat
        pure (false, .square :: open_)
      | some '\x7b' => do
        eat
        pure (false, .curly :: open_)
      | some c =>
        if c = '-' || Char.isDigit c then do
          if c = '-' then eat
          let _ ← number true (c = '-')
          pure (true, open_)
        else failAhead "expected value" : Read (Bool × List Bracket))
    match ← passBetween comma inside with
    | [] => pure ()
    | b :: outer => do
      if b = .curly then passName
      passValue steps (b :: outer)

/-! ## Records -/

/-- Whether another field follows; its name is then ahead. -/
def anotherField (first : Bool) : Read Bool := do
  match ← peekSolid with
  | none => failAhead "EOF while parsing an object"
  | some '\x7d' => pure false
  | some c =>
    if first then
      if c = '"' then pure true else failAhead "key must be a string"
    else if c = ',' then do
      eat
      match ← peekSolid with
      | some '"' => pure true
      | some '\x7d' => failAhead "trailing comma"
      | some _ => failAhead "key must be a string"
      | none => failAhead "EOF while parsing a value"
    else failAhead "expected `,` or `\x7d`"

def colon : Read Unit := do
  match ← peekSolid with
  | some ':' => eat
  | some _ => failAhead "expected `:`"
  | none => failAhead "EOF while parsing an object"

/-- The fields of an object, with the names of those met before; `steps` bounds their number. -/
def objectFields (form : Form) : Nat → Bool → List String → Read Unit
  | 0, _, _ => pure ()
  | steps + 1, first, met => do
    if ← anotherField first then
      eat
      let name := String.ofList (← wholeText true)
      match form.fields.find? (·.name == name) with
      | some f => do
        if met.contains name then failWhole ("duplicate field `" ++ name ++ "`")
        colon
        fieldValue f.shape
        objectFields form steps false (name :: met)
      | none => do
        colon
        (fun k => passValue (k.rest.length + 1) [] k)
        objectFields form steps false met
    else
      match form.fields.find? fun f => !f.optional && !met.contains f.name with
      | some f => failWhole ("missing field `" ++ f.name ++ "`")
      | none => pure ()

/-- Whether another item follows. -/
def anotherItem (first : Bool) : Read Bool := do
  match ← peekSolid with
  | none => failAhead "EOF while parsing a list"
  | some ']' => pure false
  | some c =>
    if first then pure true
    else if c = ',' then do
      eat
      match ← peekSolid with
      | some ']' => failAhead "trailing comma"
      | some _ => pure true
      | none => failAhead "EOF while parsing a value"
    else failAhead "expected `,` or `]`"

/-- The values of the fields that are left, after `count` others. -/
def arrayItems (form : Form) : Nat → List Field → Read Unit
  | _, [] => pure ()
  | count, f :: fs => do
    if ← anotherItem (count == 0) then
      fieldValue f.shape
      arrayItems form (count + 1) fs
    else if f.optional then arrayItems form (count + 1) fs
    else
      failWhole ("invalid length " ++ toString count ++ ", expected struct " ++ form.name ++ " with " ++
        toString form.fields.length ++ " elements")

def endOfArray : Read Unit := do
  match ← peekSolid with
  | some ']' => eat
  | some ',' => do
    eat
    match ← peekSolid with
    | some ']' => failAhead "trailing comma"
    | _ => failAhead "trailing characters"
  | some _ => failAhead "trailing characters"
  | none => failAhead "EOF while parsing a list"

def endOfObject : Read Unit := do
  match ← peekSolid with
  | some '\x7d' => eat
  | some ',' => failAhead "trailing comma"
  | some _ => failAhead "trailing characters"
  | none => failAhead "EOF while parsing an object"

/-- Goes on with the closing bracket even after a fault, whose place may be behind it. -/
def closedBy (inside close : Read Unit) : Read Unit :=
  placed fun k =>
    match inside k with
    | (.ok (), k) => close k
    | (.error e, k) => (.error e, (close k).2)

def record (form : Form) : Read Unit := do
  match ← peekSolid with
  | none => failAhead "EOF while parsing a value"
  | some '[' => do
    eat
    closedBy (arrayItems form 0 form.fields) endOfArray
  | some '\x7b' => do
    eat
    closedBy (fun k => objectFields form (k.rest.length + 1) true [] k) endOfObject
  | some _ => mistyped ("struct " ++ form.name)

def document (form : Form) : Read Unit := do
  record form
  match ← peekSolid with
  | some _ => failAhead "trailing characters"
  | none => pure ()

/-- The first fault of a text as a record of this form, with its place. -/
def report (form : Form) (s : String) : Option String :=
  match (document form (Cursor.start s)).1 with
  | .ok () => none
  | .error ⟨words, some (line, column)⟩ => some s!"{words} at line {line} column {column}"
  | .error ⟨words, none⟩ => some words

end LeaseBroker.Diagnosis
