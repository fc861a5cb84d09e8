import LeaseBroker.Json

/-!
# The form of stored records

A record is an object with declared fields, or an array of their values in the
declared order. In an object a declared field stands at most once and other
fields are passed over; in an array only values at the end may be left out.
-/

namespace LeaseBroker.RecordForm

/-- The value of a declared field, if it is there; none at all when it stands twice. -/
def fieldOnce (fields : List (String × Json)) (name : String) : Option (Option Json) :=
  match fields.filter (·.1 == name) with
  | [] => some none
  | [f] => some (some f.2)
  | _ => none

/-- The values of the declared fields in their order. -/
def declared (names : List String) : Json → Option (List (Option Json))
  | .object fields => names.mapM (fieldOnce fields)
  | .array items =>
    if items.length ≤ names.length then
      some (items.map some ++ List.replicate (names.length - items.length) none)
    else none
  | _ => none

/-! ## Values of fields -/

def string? : Json → Option String
  | .string s => some s
  | _ => none

/-- A text, or `null` for none. -/
def optionalString? : Json → Option (Option String)
  | .null => some none
  | .string s => some (some s)
  | _ => none

/-- A text that may be written as `null` when it is empty. -/
def secret? (v : Json) : Option String := (optionalString? v).map (·.getD "")

/-- A switch, which `null` leaves off. -/
def flag? : Json → Option Bool
  | .null => some false
  | .bool b => some b
  | _ => none

/-- A whole number below `bound`. -/
def nat? (bound : Nat) : Json → Option Nat
  | .number n =>
    match n.toNat? with
    | some k => if k < bound then some k else none
    | none => none
  | _ => none

def uint16? (v : Json) : Option UInt16 := (nat? UInt16.size v).map .ofNat

def uint32? (v : Json) : Option UInt32 := (nat? UInt32.size v).map .ofNat

def uint64? (v : Json) : Option UInt64 := (nat? UInt64.size v).map .ofNat

def strings? : Json → Option (List String)
  | .array items => items.mapM string?
  | _ => none

def pairs? : Json → Option (Table String)
  | .object fields => (fields.mapM fun f => (string? f.2).map (f.1, ·)).map Table.ofList
  | _ => none

/-- A field that must be there. -/
def required {α : Type} (read : Json → Option α) : Option Json → Option α
  | some v => read v
  | none => none

/-- A field that may be left out. -/
def withDefault {α : Type} (read : Json → Option α) (default : α) : Option Json → Option α
  | some v => read v
  | none => some default

end LeaseBroker.RecordForm
