import LeaseBroker.Operation
import LeaseBroker.Quoted

/-!
# Refusals

The reasons for which a request is turned down with nothing done. Each belongs
to one of three classes: something asked for does not exist, the request itself
is malformed, or a record is in the wrong state for it. A refusal is reported to
the caller in a sentence of its own.
-/

namespace LeaseBroker
open Quoted (quote)

inductive RefusalKind where
  /-- Something asked for does not exist. -/
  | notFound
  /-- The request is malformed. -/
  | validation
  /-- A record is in the wrong state. -/
  | conflict
  deriving DecidableEq, Repr

/-- The classes of errors: what is refused is the caller's error, and a failure is not. -/
inductive ErrorClass where
  | refusal (kind : RefusalKind)
  | failure
  deriving DecidableEq, Repr

namespace ErrorClass

def all : List ErrorClass := [refusal .notFound, refusal .validation, refusal .conflict, failure]

def text : ErrorClass → String
  | refusal .notFound => "not_found"
  | refusal .validation => "validation"
  | refusal .conflict => "conflict"
  | failure => "upstream"

def isCallerError : ErrorClass → Bool
  | refusal _ => true
  | failure => false

end ErrorClass

inductive Refusal where
  -- names and requests
  | invalidName (kind name : String)
  | invalidHost
  | invalidPort (port : Int)
  | usernameUnset
  | maintenanceDatabaseUnset
  | invalidTlsMode (text : String)
  -- clusters and databases
  | clusterDeleted (cluster : String)
  | clusterNotRegistered (cluster : String)
  | registrationInDeletedCluster (cluster : String)
  | databaseTaken (database cluster : String)
  | databaseOfDeletedCluster (database cluster : String)
  | databaseDeleted (database : String)
  | deletionInDeletedCluster (cluster database : String)
  | databaseAlreadyDeleted (database : String)
  | databaseMissing (database cluster : String)
  | clusterNotReclaimable (cluster : String)
  | databaseNotReclaimable (database : String)
  | connectionWithoutCluster (cluster : String)
  -- clones
  | invalidClonePort (port : Int)
  | cloneSourceMissing (source : String)
  | cloneSourceDeleted (source : String)
  | cloneTargetUnnamed
  | cloneTargetTaken (target : String)
  -- roles
  | roleMissing (role : String)
  | termAboveMax
  -- credentials
  | issueClusterMissing (cluster : String)
  | issueClusterDeleted (cluster : String)
  | issueDatabaseMissing (database : String)
  | issueDatabaseDeleted (database : String)
  | renewClusterMissing (cluster : String)
  | renewClusterDeleted (cluster : String)
  | renewDatabaseMissing (database : String)
  | renewDatabaseDeleted (database : String)
  | revokeClusterMissing (cluster : String)
  | revokeDatabaseMissing (database : String)
  | bookkeepingMissing (key : String)
  | bookkeepingNotText (key : String)
  -- tags
  | tagDatabaseMissing (database cluster : String)
  | noTags
  | tagKeyLength (key : String)
  | tagValueLength (key : String)
  | invalidTagTarget (text : String)
  | tagIdUnset
  -- paths and fields
  | unsupportedPath (operation : Operation) (path : String)
  | fieldExpected (key expected : String)
  | fieldNotPairs (key : String)
  | attributeRequired (key : String)
  | lookupTypeRequired
  | lookupAttribute (key : String)
  /-- A refusal in words of the caller's own. -/
  | worded (kind : RefusalKind) (words : String)
  deriving DecidableEq, Repr

namespace Refusal

/-- The longest key of a tag, in characters. -/
def tagKeyLimit : Nat := 64

/-- The longest value of a tag, in characters. -/
def tagValueLimit : Nat := 128

def kind : Refusal → RefusalKind
  | clusterNotRegistered _ | databaseMissing .. | connectionWithoutCluster _ | cloneSourceMissing _ | roleMissing _
  | issueClusterMissing _ | issueDatabaseMissing _ | renewClusterMissing _ | renewDatabaseMissing _
  | revokeClusterMissing _ | revokeDatabaseMissing _ | tagDatabaseMissing .. => .notFound
  | clusterDeleted _ | registrationInDeletedCluster _ | databaseOfDeletedCluster .. | databaseDeleted _
  | deletionInDeletedCluster .. | databaseAlreadyDeleted _ | clusterNotReclaimable _ | databaseNotReclaimable _
  | cloneSourceDeleted _ | issueClusterDeleted _ | issueDatabaseDeleted _ | renewClusterDeleted _
  | renewDatabaseDeleted _ => .conflict
  | worded k _ => k
  | _ => .validation

def message : Refusal → String
  | invalidName kind name => s!"Invalid {kind} name " ++ quote name
  | invalidHost => "Invalid host value"
  | invalidPort port => s!"Invalid port number {port}"
  | usernameUnset => "Username must be set"
  | maintenanceDatabaseUnset => "Maintenance database must be set"
  | invalidTlsMode text =>
    s!"Invalid ssl_mode {text}, valid options are 'disable', 'require', 'verify-ca', or 'verify-full'"
  | clusterDeleted c => s!"Cluster {c} is deleted. Use gc/cluster to manage deleted clusters"
  | clusterNotRegistered c => s!"Cluster with name {c} is not registered"
  | registrationInDeletedCluster c =>
    s!"Cluster {c} is deleted. Cannot register new databases in deleted cluster"
  | databaseTaken d c => s!"Database {d} is already registered in cluster {c}"
  | databaseOfDeletedCluster d c => s!"Database {d} in deleted cluster {c} is marked as deleted"
  | databaseDeleted d => s!"Database {d} is deleted. Use gc/ to manage deleted databases"
  | deletionInDeletedCluster c d =>
    s!"Cluster {c} is deleted. Database {d} is automatically marked as deleted"
  | databaseAlreadyDeleted d => s!"Database {d} is already deleted"
  | databaseMissing d c => s!"Database {d} does not exist in cluster {c}"
  | clusterNotReclaimable c =>
    s!"Cluster {c} is not marked for GC. Delete the cluster before invoking GC operations on it"
  | databaseNotReclaimable d =>
    s!"Database {d} is not marked for GC. Delete the database before invoking GC operations on it"
  | connectionWithoutCluster c => s!"configuration for {c} cluster does not exist"
  | invalidClonePort port =>
    s!"Invalid port number {port}, a valid port number between 1 and 65535 is required"
  | cloneSourceMissing s => s!"Source cluster {s} is not configured. Use cluster/{s} to configure it first"
  | cloneSourceDeleted s => s!"Deleted source cluster {s} cannot be cloned"
  | cloneTargetUnnamed => "target cluster name cannot be empty"
  | cloneTargetTaken t =>
    s!"Duplicate value for target cluster {t}. A cluster with name {t} is already configured"
  | roleMissing r => s!"Role {r} is not configured"
  | termAboveMax => "default_ttl cannot be greater than max_ttl"
  | issueClusterMissing c => s!"Cluster {c} is not configured"
  | issueClusterDeleted c => s!"Cluster {c} is marked as deleted. Cannot generate new credentials"
  | issueDatabaseMissing d => s!"Database {d} is not configured"
  | issueDatabaseDeleted d => s!"Database {d} is marked as deleted. Cannot generate new credentials"
  | renewClusterMissing c => s!"Configuration for cluster {c} is not available"
  | renewClusterDeleted c => s!"Cluster {c} is marked as deleted. Cannot renew credentials"
  | renewDatabaseMissing d => s!"Configuration for database {d} is not available"
  | renewDatabaseDeleted d => s!"Database {d} is marked as deleted. Cannot renew credentials"
  | revokeClusterMissing c => s!"Configuration for cluster {c} cannot be found"
  | revokeDatabaseMissing d => s!"Configuration for database {d} cannot be found"
  | bookkeepingMissing key => s!"secret is missing internal data: {key}"
  | bookkeepingNotText key => s!"raw value for {key} internal data is not a string"
  | tagDatabaseMissing d c => "Database " ++ quote d ++ " is not registered in cluster " ++ quote c
  | noTags => "'data' must contain at least one key-value pair"
  | tagKeyLength key => "metadata key " ++ quote key ++ s!" must be between 1 and {tagKeyLimit} characters"
  | tagValueLength key => "value for metadata key " ++ quote key ++ s!" exceeds {tagValueLimit} characters"
  | invalidTagTarget text =>
    "invalid 'type' value " ++ quote text ++ ", only 'cluster' or 'database' is supported"
  | tagIdUnset => "'id' is required to delete metadata"
  | unsupportedPath operation path => "unsupported path: " ++ operation.text ++ " " ++ path
  | fieldExpected key expected => "invalid value for field " ++ quote key ++ s!": expected {expected}"
  | fieldNotPairs key => "value of " ++ quote key ++ " must be key-value pairs"
  | attributeRequired key => s!"'{key}' attribute is required"
  | lookupTypeRequired => "'type' attribute is required to perform lookup"
  | lookupAttribute key => "attribute " ++ quote key ++ " is not supported on lookup"
  | worded _ words => words

end Refusal

end LeaseBroker
