import LeaseBroker.Credentials
import LeaseBroker.Messages
import LeaseBroker.Reclaim
import LeaseBroker.Replicas
import LeaseBroker.TagIndex

/-!
# Routing requests

A path is cut at its slashes, those at its ends aside, and names with the
operation what is to be done. Names in a path must be names; the id of a set of
tags may hold slashes. A refusal becomes a response, and every other error
stays one.
-/

namespace LeaseBroker.Router

/-! ## Paths -/

/-- The parts of a path between slashes; a path of slashes alone has none. -/
def segments (path : String) : List String :=
  match Blank.strip (· == '/') path.toList with
  | [] => []
  | cs => (Search.cut '/' cs).map String.ofList

/-- Whether the segments that stand for names are names. -/
def namesValid : List String → Bool
  | "cluster" :: names => names.all Names.isName
  | "clone" :: names => names.all Names.isName
  | "roles" :: names => names.all Names.isName
  | "creds" :: names => names.all Names.isName
  | "gc" :: "cluster" :: names => names.all Names.isName
  | _ => true

/-- What a request is about. -/
inductive Route where
  | info
  | tags
  | tagSet (id : String)
  | clusters
  | cluster (cluster : String)
  | clone (source : String)
  | database (cluster database : String)
  | roles
  | role (role : String)
  | credential (cluster database role : String)
  | deletedClusters
  | deletedCluster (cluster : String)
  | deletedDatabase (cluster database : String)
  deriving DecidableEq, Repr

/-- The route of a path without regard to the operation. -/
def routeOf : List String → Option Route
  | ["info"] => some .info
  | ["metadata"] => some .tags
  | "metadata" :: ids => some (.tagSet (Search.join "/" ids))
  | ["cluster"] => some .clusters
  | ["cluster", c] => some (.cluster c)
  | ["cluster", c, d] => some (.database c d)
  | ["clone", c] => some (.clone c)
  | ["roles"] => some .roles
  | ["roles", r] => some (.role r)
  | ["creds", c, d, r] => some (.credential c d r)
  | ["gc", "clusters"] => some .deletedClusters
  | ["gc", "cluster", c] => some (.deletedCluster c)
  | ["gc", "cluster", c, d] => some (.deletedDatabase c d)
  | _ => none

/-! ## Fields of requests -/

def clusterRequest (data : Fields.Data) : Except Refusal ClusterRequest := do
  let host ← Fields.stringOr data "host" ""
  let port ← Fields.intOr data "port" 5432
  let username ← Fields.stringOr data "username" ""
  let password ← Fields.stringOr data "password" ""
  let maxOpenConnections ← Fields.uintOr data "max_open_connections" 5
  let maxIdleConnections ← Fields.uintOr data "max_idle_connections" 5
  let lifetime ← Fields.duration data "max_connection_lifetime"
  let database ← Fields.stringOr data "database" "postgres"
  let tlsMode ← Fields.stringOr data "ssl_mode" "require"
  return {
    host, port, username, password, maxOpenConnections, maxIdleConnections
    maxConnectionLifetime := (lifetime.map (·.secs)).getD 300
    database, tlsMode }

def cloneRequest (data : Fields.Data) : Except Refusal CloneRequest := do
  let target ← Fields.stringOr data "target" ""
  let host ← Fields.stringOr data "host" ""
  let port ← Fields.intOr data "port" 5432
  let inheritDeleted ← Fields.boolOr data "inherit_deleted_db" false
  return { target, host, port, inheritDeleted }

def databaseRequest (data : Fields.Data) : Except Refusal DatabaseRequest := do
  let objectsOwner ← Fields.stringOr data "objects_owner_role" ""
  let provision ← Fields.boolOr data "initialize" true
  let createDatabase ← Fields.boolOr data "create_db" true
  return { objectsOwner, provision, createDatabase }

def roleRequest (data : Fields.Data) : Except Refusal RoleRequest := do
  let defaultTtl ← Fields.duration data "default_ttl"
  let maxTtl ← Fields.duration data "max_ttl"
  let creation ← Fields.stringList data "creation_statement"
  let revocation ← Fields.stringList data "revocation_statement"
  return { defaultTtl, maxTtl, creation, revocation }

def requiredPairs (data : Fields.Data) : Except Refusal (Table String) := do
  let some pairs ← Fields.pairs data "data" | throw (.attributeRequired "data")
  return pairs

/-! ## Answers -/

def description : String := "Manage credentials for dynamic fleets of PostgreSQL clusters"

def version : String := "0.1.0"

/-- What the broker says about itself, with its metrics. -/
def about (m : Metrics) : Table Json :=
  Table.ofList [("description", .string description), ("version", .string version), ("commit_sha", .string ""),
    ("metrics", .string m.text)]

def writeTags (data : Fields.Data) : Op Response := do
  let some cluster ← Op.ofRefusal (Fields.string data "cluster") | Op.refuse (.attributeRequired "cluster")
  let database ← Op.ofRefusal (Fields.string data "database")
  let pairs ← Op.ofRefusal (requiredPairs data)
  let id ← TagIndex.write cluster database pairs
  return .ofData (Table.ofList [("id", .string id)])

/-- The target and the pairs of a query, which is not about one object. -/
def tagQuery (data : Fields.Data) : Except Refusal (TagTarget × Table String) := do
  if (Fields.given? data "database").isSome then throw (.lookupAttribute "database")
  if (Fields.given? data "cluster").isSome then throw (.lookupAttribute "cluster")
  let some kind ← Fields.string data "type" | throw .lookupTypeRequired
  let target ← TagTarget.ofText kind
  return (target, ← requiredPairs data)

def lookupTags (data : Fields.Data) : Op Response := do
  let (target, query) ← Op.ofRefusal (tagQuery data)
  return .ofKeys (← TagIndex.lookup target query)

def listTags : Op Response := do
  let listing ← TagIndex.listing
  return .ofData (Table.ofList [("keys", .strings listing.keys),
    ("key_info", .ofTable (listing.map fun tags => .ofTable (tags.map .string)))])

def issue (settings : Settings) (cluster database role displayName : String) : Op Response := do
  let c ← Credentials.issueCredential settings cluster database role displayName
  return {
    data := Table.ofList [("username", .string c.username), ("password", .string c.password)]
    lease := some { ttl := c.ttl.secs, maxTtl := c.maxTtl.secs, internal := c.secret.toInternal } }

/-- Does what a request asks for. -/
def dispatch (settings : Settings) (r : Request) : Op Response := do
  let parts := segments r.path
  if !namesValid parts then Op.refuse (.unsupportedPath r.operation r.path)
  match routeOf parts, r.operation with
  | some .info, .read => return .ofData (about (← Program.metrics))
  | some .tags, .update => writeTags r.data
  | some .tags, .read => lookupTags r.data
  | some .tags, .list => listTags
  | some (.tagSet id), .delete => do
    TagIndex.erase id
    return {}
  | some .clusters, .list => return .ofKeys (← Fleet.listClusters)
  | some (.cluster c), .read => return .ofData (← Fleet.readCluster c).toData
  | some (.cluster c), .update => return .ofOutcome (← Fleet.registerCluster c (← Op.ofRefusal (clusterRequest r.data)))
  | some (.cluster c), .delete => return .ofOutcome (← Fleet.deleteCluster c)
  | some (.cluster c), .list => return .ofKeys (← Fleet.listDatabases c)
  | some (.clone c), .update => return .ofOutcome (← Replicas.cloneCluster c (← Op.ofRefusal (cloneRequest r.data)))
  | some (.database c d), .update =>
    return .ofOutcome (← Fleet.registerDatabase c d (← Op.ofRefusal (databaseRequest r.data)))
  | some (.database c d), .read => return .ofData (← Fleet.readDatabase c d).toData
  | some (.database c d), .delete => return .ofOutcome (← Fleet.deleteDatabase c d)
  | some .roles, .list => return .ofKeys (← RoleTemplates.listRoles)
  | some (.role name), .read => return .ofData (← RoleTemplates.readRole name).toData
  | some (.role name), .update => do
    let _ ← RoleTemplates.writeRole settings.lease name (← Op.ofRefusal (roleRequest r.data))
    return {}
  | some (.role name), .delete => do
    RoleTemplates.deleteRole name
    return {}
  | some (.credential c d role), .read => issue settings c d role r.displayName
  | some .deletedClusters, .list => return .ofKeys (← Reclaim.listClusters)
  | some .deletedClusters, .read => return .ofKeys (← Reclaim.listClusters)
  | some (.deletedCluster c), .read => return .ofData (← Reclaim.readCluster c).toData
  | some (.deletedCluster c), .list => return .ofKeys (← Reclaim.listDatabases c)
  | some (.deletedCluster c), .delete => return .ofOutcome (← Reclaim.purgeCluster c)
  | some (.deletedDatabase c d), .read => return .ofData (← Reclaim.readDatabase c d).toData
  | some (.deletedDatabase c d), .delete => return .ofOutcome (← Reclaim.purgeDatabase c d)
  | _, _ => Op.refuse (.unsupportedPath r.operation r.path)

/-- Puts a refusal into a response. -/
def answering (p : Op Response) : Op Response :=
  ExceptT.mk do
    match ← p.run with
    | .error (.refused why) => return .ok (.ofRefusal why)
    | r => return r

def handle (settings : Settings) (r : Request) : Op Response := answering (dispatch settings r)

/-! ## Leases -/

/-- Renews a lease; its bookkeeping goes back as it came. -/
def renew (settings : Settings) (internal : Table Json) (increment : Span) (issued : Instant) : Op Response :=
  answering do
    let secret ← Op.ofRefusal (LeaseSecret.ofInternal internal)
    let o ← Credentials.renewCredential settings secret increment issued
    return {
      warnings := o.warnings
      lease := some { ttl := o.value.ttl.secs, maxTtl := o.value.maxTtl.secs, internal } }

def revoke (internal : Table Json) : Op Response :=
  answering do
    let secret ← Op.ofRefusal (LeaseSecret.ofInternal internal)
    return .ofOutcome (← Credentials.revokeCredential secret)

end LeaseBroker.Router
