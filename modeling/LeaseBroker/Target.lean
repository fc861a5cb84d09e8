import LeaseBroker.Quoted
import LeaseBroker.Span

/-!
# Connection targets

All that is needed to open a connection to one database of a server: where it
is, who logs in, whether the line is encrypted, and how large the pool may be.
-/

namespace LeaseBroker

/-- How a connection uses TLS. -/
inductive TlsMode where
  /-- No TLS. -/
  | disable
  /-- TLS without a look at the server's certificate. -/
  | require
  /-- TLS with a check of the certificate chain. -/
  | verifyCa
  /-- TLS with a check of the chain and of the host's name. -/
  | verifyFull
  deriving DecidableEq, Repr

namespace TlsMode

def text : TlsMode → String
  | disable => "disable"
  | require => "require"
  | verifyCa => "verify-ca"
  | verifyFull => "verify-full"

/-- The name of the choice in a description of a target. -/
def label : TlsMode → String
  | disable => "Disable"
  | require => "Require"
  | verifyCa => "VerifyCa"
  | verifyFull => "VerifyFull"

def all : List TlsMode := [disable, require, verifyCa, verifyFull]

def ofText? (s : String) : Option TlsMode := all.find? (·.text == s)

instance : Inhabited TlsMode := ⟨require⟩

theorem ofText?_text (m : TlsMode) : ofText? m.text = some m := by cases m <;> rfl

theorem text_of_ofText? {s : String} {m : TlsMode} (h : ofText? s = some m) : m.text = s := by
  have := List.find?_some h
  simpa using this

end TlsMode

/-- Which login of a cluster a connection uses. -/
inductive LoginKind where
  | root
  | management
  deriving DecidableEq, Repr

namespace LoginKind

def text : LoginKind → String
  | root => "root"
  | management => "management"

end LoginKind

structure PoolTuning where
  maxOpen : UInt32
  maxIdle : UInt32
  maxLifetime : Span
  deriving DecidableEq, Repr

structure Target where
  host : String
  port : UInt16
  username : String
  password : String
  database : String
  tlsMode : TlsMode
  pool : PoolTuning
  deriving DecidableEq, Repr

namespace Target

/-- A description for people, which keeps the password to itself. -/
def description (t : Target) : String :=
  "ConnectTarget \x7b host: " ++ Quoted.quote t.host ++ ", port: " ++ toString t.port ++
    ", username: " ++ Quoted.quote t.username ++ ", password: \"[REDACTED]\", database: " ++
    Quoted.quote t.database ++ ", ssl_mode: " ++ t.tlsMode.label ++ " \x7d"

end Target

end LeaseBroker
