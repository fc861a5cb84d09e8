import LeaseBroker.Diagnosis
import LeaseBroker.RecordForm

/-!
# Database records

A database of a cluster, with the role that owns the objects its leased logins
create. A deleted database keeps its record until that is reclaimed.
-/

namespace LeaseBroker

structure DatabaseRecord where
  cluster : String
  database : String
  objectsOwner : String
  disabled : Bool
  deriving DecidableEq, Repr

namespace DatabaseRecord

def fieldNames : List String := ["cluster", "database", "objects_owner", "disabled"]

def toJson (d : DatabaseRecord) : Json :=
  .object [("cluster", .string d.cluster), ("database", .string d.database),
    ("objects_owner", .string d.objectsOwner), ("disabled", .bool d.disabled)]

open RecordForm in
def ofJson? (v : Json) : Option DatabaseRecord := do
  match ← declared fieldNames v with
  | [cluster, database, objectsOwner, disabled] =>
    return {
      cluster := ← required string? cluster
      database := ← required string? database
      objectsOwner := ← required string? objectsOwner
      disabled := ← withDefault flag? false disabled }
  | _ => none

/-- The form by which a text that is no such record is diagnosed. -/
def form : Diagnosis.Form where
  name := "DatabaseConfig"
  fields := [⟨"cluster", .text, false⟩, ⟨"database", .text, false⟩, ⟨"objects_owner", .text, false⟩,
    ⟨"disabled", .flag, true⟩]

def encode (d : DatabaseRecord) : String := d.toJson.text

def decode (text : String) : Except String DatabaseRecord :=
  match JsonReader.ofText text >>= ofJson? with
  | some d => .ok d
  | none => .error ((Diagnosis.report form text).getD "not a database record")

/-- The record as a caller sees it. -/
def toData (d : DatabaseRecord) : Table Json :=
  Table.ofList [("cluster", .string d.cluster), ("database", .string d.database),
    ("objects_owner", .string d.objectsOwner), ("disabled", .bool d.disabled)]

end DatabaseRecord

/-- What a caller gives to register a database. -/
structure DatabaseRequest where
  /-- The role to own the objects; a new one is made up when this is empty. -/
  objectsOwner : String := ""
  /-- Whether the owner role and its grants are made on the server. -/
  provision : Bool := true
  /-- Whether provisioning also creates the database. -/
  createDatabase : Bool := true
  deriving DecidableEq, Repr

namespace DatabaseRequest

/-- A request for the record alone. -/
def recordOnly : DatabaseRequest := { provision := false, createDatabase := false }

end DatabaseRequest

end LeaseBroker
