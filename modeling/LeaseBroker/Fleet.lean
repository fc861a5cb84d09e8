import LeaseBroker.Connections
import LeaseBroker.DatabaseRecord
import LeaseBroker.Names
import LeaseBroker.Outcome
import LeaseBroker.Statements

/-!
# Registering clusters and databases

Registering a cluster changes the password it was registered with and makes a
management role, on the server first and in the record last. Registering a
database may create it and the role that owns its objects. Deleting either only
marks its record and closes its connections.
-/

namespace LeaseBroker

def loadDatabase (cluster database : String) : Op (Option DatabaseRecord) :=
  loadRecord DatabaseRecord.decode (StoreKeys.database cluster database)

def saveCluster (name : String) (c : ClusterRecord) : Op Unit :=
  Op.ofStore (Program.put (StoreKeys.cluster name) c.encode)

/-- Saves a database under a cluster, which need not be the one that the record names. -/
def saveDatabase (cluster database : String) (d : DatabaseRecord) : Op Unit :=
  Op.ofStore (Program.put (StoreKeys.database cluster database) d.encode)

def checkName (kind name : String) : Except Refusal Unit :=
  if Names.isName name then .ok () else .error (.invalidName kind name)

namespace Fleet

open Template (render)

/-! ## Clusters -/

/-- Gives `user` a new password over an open connection. -/
def rotatePassword (c : Connection) (user : String) : Op String := do
  let password ← Program.password
  let bindings := (Bindings.empty.identifier "user" user).literal "password" password
  Op.ofSql (Program.execute c (render Statements.updatePassword bindings))
  return password

/-- Makes a management role and gives its name and password. -/
def createManagementRole (c : Connection) : Op (String × String) := do
  let role := Names.managementRole (← Program.uuid)
  let password ← Program.password
  let bindings := (Bindings.empty.identifier "user" role).literal "password" password
  Op.ofSql (Program.execute c (render Statements.createManagementRole bindings))
  return (role, password)

/-- The new logins of a cluster. -/
structure Logins where
  managementRole : String
  managementPassword : String
  rootPassword : String
  deriving DecidableEq, Repr

def provisionCluster (c : Connection) (user : String) : Op Logins := do
  let (managementRole, managementPassword) ←
    Op.inContext "failed to create management role" (createManagementRole c)
  let rootPassword ← Op.inContext "failed to rotate root password" (rotatePassword c user)
  return { managementRole, managementPassword, rootPassword }

/-- Registers a cluster, or registers an active one anew. -/
def registerCluster (name : String) (request : ClusterRequest) : Op (Outcome Unit) := do
  Op.ofRefusal (checkName "cluster" name)
  if let some c ← loadCluster name then
    if c.disabled then Op.refuse (.clusterDeleted name)
  let record ← Op.ofRefusal request.validate
  let c ← Connections.openDirect record .root
  let logins ← (provisionCluster c record.username).andAlways (Connections.closeQuietly c)
  saveCluster name { record with
    managementRole := logins.managementRole
    managementPassword := logins.managementPassword
    password := logins.rootPassword }
  let outcome : Outcome Unit :=
    { value := (), warnings := [.rootPasswordRotated, .managementRoleCreated logins.managementRole] }
  match ← Connections.invalidate (.cluster name) with
  | .ok _ => return outcome
  | .error e => return outcome.warn (.cacheFlushFailed e)

/-- The record of an active cluster. -/
def readCluster (name : String) : Op ClusterRecord := do
  let some c ← loadCluster name | Op.refuse (.clusterNotRegistered name)
  if c.disabled then Op.refuse (.clusterDeleted name)
  return c

/-- Closes what an invalidation covers and warns when that fails. -/
def flushed (what : Eviction) (outcome : Outcome Unit) : Op (Outcome Unit) := do
  match ← Connections.invalidate what with
  | .ok _ => return outcome
  | .error e => return outcome.warn (.connectionsNotClosed e)

def deleteCluster (name : String) : Op (Outcome Unit) := do
  let c ← readCluster name
  saveCluster name { c with disabled := true }
  flushed (.cluster name) { value := (), warnings := [.deletedClusterManaged] }

/-- The names of all clusters, deleted ones too. -/
def listClusters : Op (List String) := do
  return StoreKeys.leaves (← Op.ofStore (Program.list StoreKeys.clusters))

/-! ## Databases -/

def objectsOwnerBindings (cluster : ClusterRecord) (owner : String) : Bindings :=
  ((Bindings.empty.identifier "role_name" owner).identifier "role_group_management"
    cluster.managementRole).identifier "role_group_root" cluster.username

/-- Runs statements in a transaction up to the first that fails. -/
def runEach (t : Transaction) (bindings : Bindings) : List String → Program (Except SqlError Unit)
  | [] => pure (.ok ())
  | template :: rest => do
    match ← Program.within t (render template bindings) with
    | .ok () => runEach t bindings rest
    | .error e => return .error e

def rollbackQuietly (t : Transaction) : Program Unit := do
  let _ ← Program.rollback t
  return ()

/-- Creates the database, if wanted, and the owner of its objects. -/
def provisionDatabase (record : ClusterRecord) (cluster database owner : String) (createDatabase : Bool) :
    Op Unit := do
  if createDatabase then
    let root ← Connections.get ⟨.root, cluster, none⟩
    let bindings := Bindings.empty.identifier "database" database
    Op.inContext "failed to create database"
      (Op.ofSql (Program.execute root (render Statements.createDatabase bindings)))
  let t ← Connections.startManagement cluster database
  match ← runEach t (objectsOwnerBindings record owner)
      [Statements.createObjectsOwner, Statements.grantAllToOwner] with
  | .ok () => Op.ofSql (Program.commit t)
  | .error e =>
    rollbackQuietly t
    throw ((BrokerError.sql e).inContext "failed to set up objects owner role")

/-- The owner that was asked for, cut to what a server keeps, or a new one. -/
def chooseOwner (database wanted : String) : Program String := do
  if wanted.isEmpty then return Names.objectsOwner database (← Program.uuid)
  else return Octets.truncate wanted Names.identifierLimit

def registerDatabase (cluster database : String) (request : DatabaseRequest) : Op (Outcome DatabaseRecord) := do
  Op.ofRefusal (checkName "cluster" cluster)
  Op.ofRefusal (checkName "database" database)
  let some c ← loadCluster cluster | Op.refuse (.clusterNotRegistered cluster)
  if c.disabled then Op.refuse (.registrationInDeletedCluster cluster)
  if let some _ ← loadDatabase cluster database then Op.refuse (.databaseTaken database cluster)
  let owner ← chooseOwner database request.objectsOwner
  if request.provision then provisionDatabase c cluster database owner request.createDatabase
  let record : DatabaseRecord := { cluster, database, objectsOwner := owner, disabled := false }
  saveDatabase cluster database record
  return { value := record }

/-- The record of an active database of an active cluster. -/
def readDatabase (cluster database : String) : Op DatabaseRecord := do
  let some c ← loadCluster cluster | Op.refuse (.clusterNotRegistered cluster)
  if c.disabled then Op.refuse (.databaseOfDeletedCluster database cluster)
  let some d ← loadDatabase cluster database | Op.refuse (.databaseMissing database cluster)
  if d.disabled then Op.refuse (.databaseDeleted database)
  return d

def deleteDatabase (cluster database : String) : Op (Outcome Unit) := do
  let some c ← loadCluster cluster | Op.refuse (.clusterNotRegistered cluster)
  if c.disabled then Op.refuse (.deletionInDeletedCluster cluster database)
  let some d ← loadDatabase cluster database | Op.refuse (.databaseMissing database cluster)
  if d.disabled then Op.refuse (.databaseAlreadyDeleted database)
  saveDatabase cluster database { d with disabled := true }
  flushed (.database cluster database) { value := () }

/-- The names of all databases of a cluster, deleted ones too. -/
def listDatabases (cluster : String) : Op (List String) := do
  return StoreKeys.leaves (← Op.ofStore (Program.list (StoreKeys.databases cluster)))

end Fleet

end LeaseBroker
