import LeaseBroker.JsonReader
import LeaseBroker.RecordForm
import LeaseBroker.Refusal

/-!
# Tag records

Tags are pairs of a key and a value, attached to a cluster or to one of its
databases. A set of tags is known by the kind and the name of its target, and it
matches a query when it holds every pair of it.
-/

namespace LeaseBroker

/-- The kinds of objects that carry tags. -/
inductive TagTarget where
  | cluster
  | database
  deriving DecidableEq, Repr

namespace TagTarget

def text : TagTarget → String
  | cluster => "cluster"
  | database => "database"

def ofText (s : String) : Except Refusal TagTarget :=
  match s with
  | "cluster" => .ok cluster
  | "database" => .ok database
  | s => .error (.invalidTagTarget s)

end TagTarget

structure TagRecord where
  cluster : String
  /-- The database that carries the tags, unless the cluster itself does. -/
  database : Option String
  tags : Table String

namespace TagRecord

def target (r : TagRecord) : TagTarget :=
  match r.database with
  | some _ => .database
  | none => .cluster

/-- The id of the set of tags of a cluster, or of a database. -/
def idOf (cluster : String) : Option String → String
  | some database => "database/" ++ cluster ++ ":" ++ database
  | none => "cluster/" ++ cluster

def id (r : TagRecord) : String := idOf r.cluster r.database

/-- The name of the target in the answer to a query. -/
def name (r : TagRecord) : String :=
  match r.database with
  | some database => r.cluster ++ "/" ++ database
  | none => r.cluster

/-- Whether the record holds every pair of the query. -/
def holds (r : TagRecord) (query : Table String) : Bool := query.entries.all fun e => r.tags.get? e.1 == some e.2

/-! ## Stored form -/

def fieldNames : List String := ["cluster", "database", "data"]

def toJson (r : TagRecord) : Json :=
  .object ([("cluster", .string r.cluster)] ++
    (match r.database with
      | some database => [("database", Json.string database)]
      | none => []) ++
    [("data", .ofTable (r.tags.map .string))])

open RecordForm in
def ofJson? (v : Json) : Option TagRecord := do
  match ← declared fieldNames v with
  | [cluster, database, tags] =>
    return {
      cluster := ← required string? cluster
      database := ← withDefault optionalString? none database
      tags := ← required pairs? tags }
  | _ => none

def encode (r : TagRecord) : String := r.toJson.text

def decode (text : String) : Except String TagRecord :=
  match JsonReader.ofText text >>= ofJson? with
  | some r => .ok r
  | none => .error "not a tag record"

end TagRecord

/-- The limits on tags: at least one, with keys and values that are not too long. -/
def checkTags (tags : Table String) : Except Refusal Unit := do
  if tags.isEmpty then throw .noTags
  tags.entries.forM fun e => do
    if e.1.isEmpty || Refusal.tagKeyLimit < e.1.length then throw (.tagKeyLength e.1)
    if Refusal.tagValueLimit < e.2.length then throw (.tagValueLength e.1)

end LeaseBroker
