import LeaseBroker.Fleet

/-!
# Cloning a cluster onto another server

A clone takes over the record of a cluster under a new name, for a server that
accepts the same logins. Both passwords are changed on that server before the
record is stored. Databases are copied one by one, and what goes wrong with one
of them is a warning.
-/

namespace LeaseBroker

/-- What a caller gives to clone a cluster. -/
structure CloneRequest where
  target : String
  host : String
  port : Int := 5432
  /-- Whether deleted databases are copied too. -/
  inheritDeleted : Bool := false
  deriving DecidableEq, Repr

namespace Replicas

/-- What became of the databases of the source. -/
structure Tallied where
  copied : Nat
  total : Nat
  warnings : List Warning

/-- Copies one database; the answer is whether it was copied, and what went wrong. -/
def copyDatabase (source target : String) (inheritDeleted : Bool) (name : String) : Program (Bool × List Warning) := do
  match ← (loadDatabase source name).run with
  | .error e => return (false, [.databaseNotLoaded name e])
  | .ok none => return (false, [.databaseVanished name])
  | .ok (some d) =>
    if d.disabled && !inheritDeleted then return (false, [])
    else
      match ← (saveDatabase target name { d with cluster := target }).run with
      | .error e => return (false, [.databaseNotStored name e])
      | .ok () => return (true, [])

def copyEach (source target : String) (inheritDeleted : Bool) : List String → Program Tallied
  | [] => pure ⟨0, 0, []⟩
  | name :: names => do
    let (copied, warnings) ← copyDatabase source target inheritDeleted name
    let rest ← copyEach source target inheritDeleted names
    return ⟨(if copied then 1 else 0) + rest.copied, 1 + rest.total, warnings ++ rest.warnings⟩

def copyDatabases (source target : String) (inheritDeleted : Bool) : Program Tallied := do
  match ← Program.list (StoreKeys.databases source) with
  | .error e => return ⟨0, 0, [.databasesNotListed e]⟩
  | .ok entries => copyEach source target inheritDeleted (StoreKeys.leaves entries)

/-- New passwords for both logins of a cluster, the management role first. -/
def rotateBoth (c : Connection) (record : ClusterRecord) : Op (String × String) := do
  let management ← Op.inContext "failed to rotate the password for management user"
    (Fleet.rotatePassword c record.managementRole)
  let root ← Op.inContext "failed to rotate the password for root user" (Fleet.rotatePassword c record.username)
  return (management, root)

/-- The record to clone, on its new server. -/
def checkClone (source : String) (request : CloneRequest) : Op ClusterRecord := do
  if request.host.isEmpty then Op.refuse .invalidHost
  let some port := validPort? request.port | Op.refuse (.invalidClonePort request.port)
  let some record ← loadCluster source | Op.refuse (.cloneSourceMissing source)
  if record.disabled then Op.refuse (.cloneSourceDeleted source)
  if request.target.isEmpty then Op.refuse .cloneTargetUnnamed
  Op.ofRefusal (checkName "cluster" request.target)
  if let some _ ← loadCluster request.target then Op.refuse (.cloneTargetTaken request.target)
  return { record with host := request.host, port := port, disabled := false }

/-- Checks that the management role can log in. -/
def tryManagement (record : ClusterRecord) : Op (List Warning) := do
  let c ← Op.inContext "failed to connect with clone as existing management user"
    (Connections.openDirect record .management)
  match ← Program.close c with
  | .ok () => return []
  | .error e => return [.cloneLoginNotClosed e]

def cloneCluster (source : String) (request : CloneRequest) : Op (Outcome Unit) := do
  let record ← checkClone source request
  let warnings ← tryManagement record
  let root ← Op.inContext "failed to connect with clone as existing root user" (Connections.openDirect record .root)
  let (managementPassword, rootPassword) ← (rotateBoth root record).andAlways (Connections.closeQuietly root)
  Op.inContext "failed to store the configuration for clone cluster"
    (saveCluster request.target { record with managementPassword, password := rootPassword })
  let tallied ← copyDatabases source request.target request.inheritDeleted
  return {
    value := ()
    warnings := warnings ++ tallied.warnings ++ [.databasesInherited tallied.copied tallied.total] }

end Replicas

end LeaseBroker
