import LeaseBroker.ClusterRecord
import LeaseBroker.Program
import LeaseBroker.StoreKeys
import LeaseBroker.Search

/-!
# Getting and closing connections

A connection is taken from the cache or opened from the stored record of its
cluster. One that was overtaken by an invalidation while it was being opened is
closed and the look-up starts again, three times at most. Invalidation takes
connections out of the cache first and closes them afterwards, so that a
failure to close keeps none of them in.
-/

namespace LeaseBroker

/-- Reads the record under a key; none if there is no such key. -/
def loadRecord {α : Type} (decode : String → Except String α) (key : String) : Op (Option α) := do
  match ← Op.ofStore (Program.fetch key) with
  | none => return none
  | some text =>
    match decode text with
    | .ok record => return some record
    | .error report => throw (.serialization report)

def loadCluster (name : String) : Op (Option ClusterRecord) := loadRecord ClusterRecord.decode (StoreKeys.cluster name)

namespace Connections

/-- How often opening is tried. -/
def attempts : Nat := 3

def closeQuietly (c : Connection) : Program Unit := do
  let _ ← Program.close c
  return ()

/-- Opens a connection that is not cached; whoever asked for it closes it. -/
def openUncached (cluster : ClusterRecord) (kind : LoginKind) (database : String) : Op Connection := do
  let c ← Op.ofSql (Program.connect (cluster.target kind database))
  Program.tally .opened
  return c

/-- Opens a connection to the maintenance database that is not cached. -/
def openDirect (cluster : ClusterRecord) (kind : LoginKind) : Op Connection :=
  openUncached cluster kind cluster.database

/-- The connection for a key, within the given number of attempts. -/
def getWithin (key : ConnectionKey) : Nat → Op Connection
  | 0 => throw (.internal ("connection for " ++ key.text ++ s!" was invalidated {attempts} times while opening"))
  | more + 1 => do
    match ← Program.find key with
    | .cached c => return c
    | .missing generation =>
      let some cluster ← loadCluster key.cluster | Op.refuse (.connectionWithoutCluster key.cluster)
      let c ← openUncached cluster key.kind (key.database.getD cluster.database)
      match ← Program.keep key generation c with
      | .kept => return c
      | .present existing =>
        closeQuietly c
        return existing
      | .superseded =>
        closeQuietly c
        getWithin key more

def get (key : ConnectionKey) : Op Connection := getWithin key attempts

/-- Closes evicted connections one after the other and gives what went wrong. -/
def closeAll : List (ConnectionKey × Connection) → Program (List String)
  | [] => pure []
  | (_, c) :: rest => do
    Program.tally .evicted
    match ← Program.close c with
    | .ok () => closeAll rest
    | .error e => return e.message :: (← closeAll rest)

/-- Takes connections out of the cache and closes them; the answer is their number. -/
def invalidate (what : Eviction) : Program (Except SqlError Nat) := do
  let evicted ← Program.evict what
  match ← closeAll evicted with
  | [] => return .ok evicted.length
  | failures => return .error (.close (Search.join "\n" failures))

/-- The key of the management connection to a database. -/
def managementKey (cluster database : String) : ConnectionKey := ⟨.management, cluster, some database⟩

/-- Does something on a management connection, and once more on another look-up if the first one was closed. -/
def onManagement {α : Type} (cluster database : String) (act : Connection → Program (Except SqlError α)) : Op α := do
  let c ← get (managementKey cluster database)
  match ← act c with
  | .error .closed =>
    let c ← get (managementKey cluster database)
    Op.ofSql (act c)
  | r => Op.ofSql (pure r)

def startManagement (cluster database : String) : Op Transaction := onManagement cluster database Program.start

def executeManagement (cluster database sql : String) : Op Unit :=
  onManagement cluster database fun c => Program.execute c sql

end Connections

end LeaseBroker
