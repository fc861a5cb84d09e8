import LeaseBroker.BrokerError
import LeaseBroker.JsonReader
import LeaseBroker.RecordForm
import LeaseBroker.Target

/-!
# Cluster records

A cluster is a server with two logins: the root login it was registered with
and the management role made for the broker. Its record holds the passwords of
both. A deleted cluster keeps its record until that is reclaimed.
-/

namespace LeaseBroker

structure ClusterRecord where
  host : String
  port : UInt16
  username : String
  password : String
  managementRole : String
  managementPassword : String
  maxOpenConnections : UInt32
  maxIdleConnections : UInt32
  maxConnectionLifetime : UInt64
  /-- The maintenance database. -/
  database : String
  tlsMode : TlsMode
  disabled : Bool
  deriving DecidableEq, Repr

namespace ClusterRecord

def pool (c : ClusterRecord) : PoolTuning where
  maxOpen := c.maxOpenConnections
  maxIdle := c.maxIdleConnections
  maxLifetime := .ofSecs c.maxConnectionLifetime

/-- The target of a connection to `database` with the login of `kind`. -/
def target (c : ClusterRecord) (kind : LoginKind) (database : String) : Target where
  host := c.host
  port := c.port
  username := match kind with
    | .root => c.username
    | .management => c.managementRole
  password := match kind with
    | .root => c.password
    | .management => c.managementPassword
  database := database
  tlsMode := c.tlsMode
  pool := c.pool

/-! ## Stored form -/

def fieldNames : List String :=
  ["host", "port", "username", "password", "management_role", "management_password", "max_open_connections",
    "max_idle_connections", "max_connection_lifetime", "database", "ssl_mode", "disabled"]

def toJson (c : ClusterRecord) : Json :=
  .object [("host", .string c.host), ("port", .nat c.port.toNat), ("username", .string c.username),
    ("password", .string c.password), ("management_role", .string c.managementRole),
    ("management_password", .string c.managementPassword),
    ("max_open_connections", .nat c.maxOpenConnections.toNat),
    ("max_idle_connections", .nat c.maxIdleConnections.toNat),
    ("max_connection_lifetime", .nat c.maxConnectionLifetime.toNat), ("database", .string c.database),
    ("ssl_mode", .string c.tlsMode.text), ("disabled", .bool c.disabled)]

/-- A TLS mode by its name, or as an object with that name alone and `null` under it. -/
def tlsMode? : Json → Option TlsMode
  | .string s => TlsMode.ofText? s
  | .object [(s, .null)] => TlsMode.ofText? s
  | _ => none

open RecordForm in
def ofJson? (v : Json) : Option ClusterRecord := do
  match ← declared fieldNames v with
  | [host, port, username, password, managementRole, managementPassword, maxOpen, maxIdle, maxLifetime, database,
      tlsMode, disabled] =>
    return {
      host := ← required string? host
      port := ← required uint16? port
      username := ← required string? username
      password := ← required secret? password
      managementRole := ← withDefault string? "" managementRole
      managementPassword := ← withDefault secret? "" managementPassword
      maxOpenConnections := ← required uint32? maxOpen
      maxIdleConnections := ← required uint32? maxIdle
      maxConnectionLifetime := ← required uint64? maxLifetime
      database := ← required string? database
      tlsMode := ← required tlsMode? tlsMode
      disabled := ← withDefault flag? false disabled }
  | _ => none

def encode (c : ClusterRecord) : String := c.toJson.text

def decode (text : String) : Except String ClusterRecord :=
  match JsonReader.ofText text >>= ofJson? with
  | some c => .ok c
  | none => .error "not a cluster record"

/-- The record as a caller sees it, passwords included. -/
def toData (c : ClusterRecord) : Table Json :=
  Table.ofList [("host", .string c.host), ("port", .nat c.port.toNat), ("username", .string c.username),
    ("password", .string c.password), ("management_role", .string c.managementRole),
    ("management_password", .string c.managementPassword),
    ("max_open_connections", .nat c.maxOpenConnections.toNat),
    ("max_idle_connections", .nat c.maxIdleConnections.toNat),
    ("max_connection_lifetime", .nat c.maxConnectionLifetime.toNat), ("database", .string c.database),
    ("ssl_mode", .string c.tlsMode.text), ("disabled", .bool c.disabled)]

end ClusterRecord

/-- What a caller gives to register a cluster. -/
structure ClusterRequest where
  host : String
  port : Int := 5432
  username : String
  password : String
  maxOpenConnections : UInt32 := 5
  maxIdleConnections : UInt32 := 5
  maxConnectionLifetime : UInt64 := 300
  database : String := "postgres"
  tlsMode : String := "require"
  deriving DecidableEq, Repr

/-- A port that a server can have. -/
def validPort? (port : Int) : Option UInt16 :=
  if 1 ≤ port ∧ port ≤ 65535 then some (.ofNat port.toNat) else none

namespace ClusterRequest

/-- The record of a request without management login, or the first fault found in it. -/
def validate (r : ClusterRequest) : Except Refusal ClusterRecord := do
  if r.host.isEmpty then throw .invalidHost
  let some port := validPort? r.port | throw (.invalidPort r.port)
  if r.username.isEmpty then throw .usernameUnset
  if r.database.isEmpty then throw .maintenanceDatabaseUnset
  let some tlsMode := TlsMode.ofText? r.tlsMode | throw (.invalidTlsMode r.tlsMode)
  return {
    host := r.host
    port := port
    username := r.username
    password := r.password
    managementRole := ""
    managementPassword := ""
    maxOpenConnections := r.maxOpenConnections
    maxIdleConnections := r.maxIdleConnections
    maxConnectionLifetime := r.maxConnectionLifetime
    database := r.database
    tlsMode := tlsMode
    disabled := false }

end ClusterRequest

end LeaseBroker
