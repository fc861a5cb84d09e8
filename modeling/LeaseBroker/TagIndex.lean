import LeaseBroker.Fleet
import LeaseBroker.TagRecord

/-!
# The index of tags

Tags are written to clusters and databases that are registered, whole sets at a
time, and found again by the pairs they hold. They do not follow their target
when it is deleted.
-/

namespace LeaseBroker.TagIndex

/-- Replaces the tags of a target and gives the id of the set. -/
def write (cluster : String) (database : Option String) (tags : Table String) : Op String := do
  let some _ ← loadCluster cluster | Op.refuse (.clusterNotRegistered cluster)
  if let some d := database then
    let some _ ← loadDatabase cluster d | Op.refuse (.tagDatabaseMissing d cluster)
  Op.ofRefusal (checkTags tags)
  let record : TagRecord := { cluster, database, tags }
  Op.ofStore (Program.put (StoreKeys.tagSet record.id) record.encode)
  return record.id

/-- The records that are there under these ids. -/
def loadEach : List String → Op (List TagRecord)
  | [] => pure []
  | id :: ids => do
    let record ← loadRecord TagRecord.decode (StoreKeys.tagSet id)
    let rest ← loadEach ids
    return record.toList ++ rest

/-- All sets of tags of one kind of target. -/
def load (target : TagTarget) : Op (List TagRecord) := do
  let above := target.text ++ "/"
  let entries ← Op.ofStore (Program.list (StoreKeys.tagSet above))
  loadEach ((StoreKeys.leaves entries).map (above ++ ·))

/-- The names of the targets that hold every pair of the query. -/
def lookup (target : TagTarget) (query : Table String) : Op (List String) := do
  Op.ofRefusal (checkTags query)
  return ((← load target).filter (·.holds query)).map (·.name)

/-- All sets of tags by their ids. -/
def listing : Op (Table (Table String)) := do
  let clusters ← load .cluster
  let databases ← load .database
  return Table.ofList ((clusters ++ databases).map fun r => (r.id, r.tags))

/-- Removes a set of tags, if there is one of that id. -/
def erase (id : String) : Op Unit := do
  if id.isEmpty then Op.refuse .tagIdUnset
  Op.ofStore (Program.delete (StoreKeys.tagSet id))

end LeaseBroker.TagIndex
