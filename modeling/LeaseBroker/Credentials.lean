import LeaseBroker.Lease
import LeaseBroker.LeaseTerm
import LeaseBroker.RoleTemplates

/-!
# Issuing, renewing and revoking credentials

Creation is all or nothing: the statements of a role run in one transaction,
and the first failure undoes them all. Revocation does what it can: each
statement runs under a savepoint of its own, a failure becomes a warning, and
the transaction is committed in any case.
-/

namespace LeaseBroker.Credentials

open Template (render)

/-! ## Issuing -/

/-- The statements without blanks around them; blank ones are left out. -/
def trimmed (templates : List String) : List String := (templates.map Blank.trimText).filter (!·.isEmpty)

def issueBindings (username password expiration objectsOwner group : String) : Bindings :=
  ((((Bindings.empty.identifier "user" username).literal "password" password).literal "expiration"
    expiration).identifier "objects_owner" objectsOwner).identifier "group" group

/-- The term of a new lease, which its role bounds by its own default. -/
def issueTerm (role : RoleRecord) (now : Instant) : TermRequest where
  increment := .zero
  roleTtl := role.defaultSpan
  roleMaxTtl := role.defaultSpan
  issued := now
  now := now

def issueCredential (settings : Settings) (cluster database role displayName : String) : Op Credential := do
  let some clusterRecord ← loadCluster cluster | Op.refuse (.issueClusterMissing cluster)
  if clusterRecord.disabled then Op.refuse (.issueClusterDeleted cluster)
  let some databaseRecord ← loadDatabase cluster database | Op.refuse (.issueDatabaseMissing database)
  if databaseRecord.disabled then Op.refuse (.issueDatabaseDeleted database)
  let some roleRecord ← loadRole role | Op.refuse (.roleMissing role)
  let username := Names.login displayName (← Program.uuid)
  let password ← Program.password
  let now ← Program.now
  let term := ((issueTerm roleRecord now).grant settings.lease).value
  let bindings := issueBindings username password (now.after term).text databaseRecord.objectsOwner
    clusterRecord.managementRole
  let t ← Connections.startManagement cluster database
  match ← Fleet.runEach t bindings (trimmed roleRecord.creationStatements) with
  | .error e =>
    Fleet.rollbackQuietly t
    throw (.sql e)
  | .ok () =>
    Op.ofSql (Program.commit t)
    Program.tally .issued
    return {
      username, password
      secret := { role, username, cluster, database }
      ttl := roleRecord.defaultSpan
      maxTtl := roleRecord.maxSpan }

/-! ## Renewing -/

/-- Moves the expiry of a login on the server. -/
def extend (secret : LeaseSecret) (validUntil : Instant) : Op Unit := do
  let bindings := (Bindings.empty.identifier "user" secret.username).literal "expiration" validUntil.text
  Connections.executeManagement secret.cluster secret.database (render Statements.renewExpiry bindings)

def renewCredential (settings : Settings) (secret : LeaseSecret) (increment : Span) (issued : Instant) :
    Op (Outcome RenewedLease) := do
  let some role ← loadRole secret.role | Op.refuse (.roleMissing secret.role)
  let some cluster ← loadCluster secret.cluster | Op.refuse (.renewClusterMissing secret.cluster)
  if cluster.disabled then Op.refuse (.renewClusterDeleted secret.cluster)
  let some database ← loadDatabase secret.cluster secret.database | Op.refuse (.renewDatabaseMissing secret.database)
  if database.disabled then Op.refuse (.renewDatabaseDeleted secret.database)
  let now ← Program.now
  let request : TermRequest :=
    { increment, roleTtl := role.defaultSpan, roleMaxTtl := role.maxSpan, issued, now }
  let term := request.grant settings.lease
  if !term.value.isZero then
    extend secret (now.after (term.value.add settings.renewMargin))
    Program.tally .renewed
  return term.map fun ttl => { ttl, maxTtl := role.maxSpan }

/-! ## Revoking -/

/-- Runs a statement under a savepoint and undoes it when it fails. -/
def runIsolated (t : Transaction) (sql : String) : Program (Except SqlError Unit) := do
  match ← Program.within t Statements.savepoint with
  | .error e => return .error e
  | .ok () =>
    match ← Program.within t sql with
    | .ok () => Program.within t Statements.releaseSavepoint
    | .error e =>
      let _ ← Program.within t Statements.rollbackToSavepoint
      return .error e

/-- Runs the statements from position `index` on; each failure is a warning. Blank statements keep their place. -/
def runRevocation (t : Transaction) (bindings : Bindings) : Nat → List String → Program (List Warning)
  | _, [] => pure []
  | index, template :: rest => do
    let sql := Blank.trimText template
    if sql.isEmpty then runRevocation t bindings (index + 1) rest
    else
      match ← runIsolated t (render sql bindings) with
      | .ok () => runRevocation t bindings (index + 1) rest
      | .error e => return .revocationFailed index sql e :: (← runRevocation t bindings (index + 1) rest)

def revokeBindings (username database objectsOwner group : String) : Bindings :=
  (((Bindings.empty.identifier "user" username).identifier "database" database).identifier "objects_owner"
    objectsOwner).identifier "group" group

/-- The statements of a role that still exists, or the built-in ones with a warning. -/
def revocationPlan (role : String) : Op (Outcome (List String)) := do
  match ← loadRole role with
  | some r => return { value := r.revocationStatements }
  | none => return { value := Statements.revocation, warnings := [.roleNotFound role] }

def revokeWithin (t : Transaction) (bindings : Bindings) (templates : List String) : Op (List Warning) := do
  let warnings ← runRevocation t bindings 0 templates
  Op.ofSql (Program.commit t)
  return warnings

/-- Revokes over a connection of its own, which keeps deleted records out of the cache. -/
def revokeUncached (cluster : ClusterRecord) (database : String) (bindings : Bindings) (templates : List String) :
    Op (List Warning) := do
  let c ← Connections.openUncached cluster .management database
  (do
    let t ← Op.ofSql (Program.start c)
    revokeWithin t bindings templates : Op (List Warning)).andAlways (Connections.closeQuietly c)

def revokeCredential (secret : LeaseSecret) : Op (Outcome Unit) := do
  let plan ← revocationPlan secret.role
  let some cluster ← loadCluster secret.cluster | Op.refuse (.revokeClusterMissing secret.cluster)
  let some database ← loadDatabase secret.cluster secret.database
    | Op.refuse (.revokeDatabaseMissing secret.database)
  let bindings := revokeBindings secret.username secret.database database.objectsOwner cluster.managementRole
  let warnings ←
    if cluster.disabled || database.disabled then revokeUncached cluster secret.database bindings plan.value
    else do
      let t ← Connections.startManagement secret.cluster secret.database
      revokeWithin t bindings plan.value
  Program.tally .revoked
  return { value := (), warnings := plan.warnings ++ warnings }

end LeaseBroker.Credentials
