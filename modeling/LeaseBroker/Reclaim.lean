import LeaseBroker.Fleet

/-!
# Reclaiming deleted clusters and databases

Reclaiming removes the record of something deleted and nothing else: no server
is asked to drop anything, and the databases of a cluster that is gone stay
until each is reclaimed itself.
-/

namespace LeaseBroker.Reclaim

/-- The names whose record is there and deleted. -/
def deletedAmong {α : Type} (load : String → Op (Option α)) (disabled : α → Bool) : List String → Op (List String)
  | [] => pure []
  | name :: names => do
    let record ← load name
    let rest ← deletedAmong load disabled names
    return if record.any disabled then name :: rest else rest

def listClusters : Op (List String) := do
  deletedAmong loadCluster (·.disabled) (← Fleet.listClusters)

def readCluster (name : String) : Op ClusterRecord := do
  let some c ← loadCluster name | Op.refuse (.clusterNotRegistered name)
  if !c.disabled then Op.refuse (.clusterNotReclaimable name)
  return c

def listDatabases (cluster : String) : Op (List String) := do
  deletedAmong (loadDatabase cluster) (·.disabled) (← Fleet.listDatabases cluster)

def purgeCluster (name : String) : Op (Outcome Unit) := do
  let _ ← readCluster name
  Op.ofStore (Program.delete (StoreKeys.cluster name))
  Fleet.flushed (.cluster name) { value := () }

def readDatabase (cluster database : String) : Op DatabaseRecord := do
  let some d ← loadDatabase cluster database | Op.refuse (.databaseMissing database cluster)
  if !d.disabled then Op.refuse (.databaseNotReclaimable database)
  return d

def purgeDatabase (cluster database : String) : Op (Outcome Unit) := do
  let _ ← readDatabase cluster database
  Op.ofStore (Program.delete (StoreKeys.database cluster database))
  Fleet.flushed (.database cluster database) { value := () }

end LeaseBroker.Reclaim
