import LeaseBroker.Blank
import LeaseBroker.JsonReader
import LeaseBroker.RecordForm
import LeaseBroker.Span
import LeaseBroker.Statements

/-!
# Role records

A role is the pattern of a credential: how long it lasts and which statements
create and remove its login. A list of statements in which all are blank counts
as none, and the built-in statements stand in for it.
-/

namespace LeaseBroker

structure RoleRecord where
  /-- Seconds that a lease lasts; zero when the role does not say. -/
  defaultTtl : UInt64
  /-- Seconds that a lease can be stretched to; zero when the role does not say. -/
  maxTtl : UInt64
  creation : List String
  revocation : List String
  deriving DecidableEq, Repr

namespace RoleRecord

def defaultSpan (r : RoleRecord) : Span := .ofSecs r.defaultTtl

def maxSpan (r : RoleRecord) : Span := .ofSecs r.maxTtl

/-- The list itself unless everything in it is blank. -/
def orBuiltIn (statements builtIn : List String) : List String :=
  if statements.all Blank.isBlankText then builtIn else statements

def creationStatements (r : RoleRecord) : List String := orBuiltIn r.creation Statements.creation

def revocationStatements (r : RoleRecord) : List String := orBuiltIn r.revocation Statements.revocation

/-! ## Stored form -/

def fieldNames : List String := ["default_ttl", "max_ttl", "creation_statement", "revocation_statement"]

def toJson (r : RoleRecord) : Json :=
  .object [("default_ttl", .nat r.defaultTtl.toNat), ("max_ttl", .nat r.maxTtl.toNat),
    ("creation_statement", .strings r.creation), ("revocation_statement", .strings r.revocation)]

open RecordForm in
def ofJson? (v : Json) : Option RoleRecord := do
  match ← declared fieldNames v with
  | [defaultTtl, maxTtl, creation, revocation] =>
    return {
      defaultTtl := ← withDefault uint64? 0 defaultTtl
      maxTtl := ← withDefault uint64? 0 maxTtl
      creation := ← withDefault strings? [] creation
      revocation := ← withDefault strings? [] revocation }
  | _ => none

def encode (r : RoleRecord) : String := r.toJson.text

def decode (text : String) : Except String RoleRecord :=
  match JsonReader.ofText text >>= ofJson? with
  | some r => .ok r
  | none => .error "not a role record"

/-- The record as a caller sees it. -/
def toData (r : RoleRecord) : Table Json :=
  Table.ofList [("default_ttl", .nat r.defaultTtl.toNat), ("max_ttl", .nat r.maxTtl.toNat),
    ("creation_statement", .strings r.creation), ("revocation_statement", .strings r.revocation)]

end RoleRecord

/-- What a caller gives to write a role; limits that are left out are the system's. -/
structure RoleRequest where
  defaultTtl : Option Span := none
  maxTtl : Option Span := none
  creation : List String := []
  revocation : List String := []
  deriving DecidableEq, Repr

end LeaseBroker
