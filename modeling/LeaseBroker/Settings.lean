import LeaseBroker.Blank
import LeaseBroker.Quoted
import LeaseBroker.Span

/-!
# Settings

The limits on leases and the timeouts of the whole broker, and how it logs.
Settings taken from the environment are read in a fixed order, so that of two
faults the earlier variable is reported, and then checked as a whole.
-/

namespace LeaseBroker

inductive LogFormat where
  | plain
  | json
  deriving DecidableEq, Repr

namespace LogFormat

def text : LogFormat → String
  | plain => "plain"
  | json => "json"

/-- Reads a format without regard to case and to blanks around it; nothing at all means plain. -/
def ofText (s : String) : Except String LogFormat :=
  match String.ofList ((Blank.trim s.toList).map Char.toLower) with
  | "plain" => .ok plain
  | "text" => .ok plain
  | "" => .ok plain
  | "json" => .ok json
  | other => .error ("unknown log format " ++ Quoted.quote other)

end LogFormat

structure Tracing where
  component : String := "pgfleet"
  /-- The filter for log lines when the host sets none. -/
  directive : String := "info"
  format : LogFormat := .plain
  deriving DecidableEq, Repr

structure LeaseLimits where
  /-- How long a lease lasts when neither the request nor the role says. -/
  defaultTtl : Span := .ofSecs 3600
  /-- How long any lease can last. -/
  maxTtl : Span := .ofSecs 86400
  deriving DecidableEq, Repr

structure Settings where
  lease : LeaseLimits := {}
  connectTimeout : Span := .ofSecs 10
  statementTimeout : Span := .ofSecs 30
  /-- Added to the expiry on the server when a lease is renewed. -/
  renewMargin : Span := .ofSecs 5
  tracing : Tracing := {}
  deriving DecidableEq, Repr

inductive SettingsError where
  | unreadable (name : String) (why : IntegerError)
  | noMaxTtl
  | defaultAboveMax
  | noTimeout
  deriving DecidableEq, Repr

namespace SettingsError

def message : SettingsError → String
  | unreadable name why => s!"Failed to parse {name}: " ++ why.message
  | noMaxTtl => "Invalid configuration: max lease TTL must be greater than 0"
  | defaultAboveMax => "Invalid configuration: default lease TTL cannot exceed the max lease TTL"
  | noTimeout => "Invalid configuration: timeouts must be greater than 0"

end SettingsError

namespace Settings

def validate (s : Settings) : Except SettingsError Unit :=
  if s.lease.maxTtl.isZero then .error .noMaxTtl
  else if s.lease.maxTtl < s.lease.defaultTtl then .error .defaultAboveMax
  else if s.connectTimeout.isZero || s.statementTimeout.isZero then .error .noTimeout
  else .ok ()

/-- The seconds in a variable, or a default for one that is not set. -/
def seconds (env : String → Option String) (name : String) (default : UInt64) : Except SettingsError Span :=
  match env name with
  | none => .ok (.ofSecs default)
  | some text =>
    match Integers.unsigned (UInt64.size - 1) text with
    | .ok n => .ok (.ofSecs (.ofNat n))
    | .error why => .error (.unreadable name why)

/-- The format in the environment; one that is unknown counts as plain. -/
def logFormat (env : String → Option String) : LogFormat :=
  match (env "PGFLEET_LOG_FORMAT").map LogFormat.ofText with
  | some (.ok format) => format
  | _ => .plain

def ofEnvironment (env : String → Option String) : Except SettingsError Settings := do
  let defaultTtl ← seconds env "PGFLEET_DEFAULT_LEASE_TTL" 3600
  let maxTtl ← seconds env "PGFLEET_MAX_LEASE_TTL" 86400
  let connectTimeout ← seconds env "PGFLEET_CONNECT_TIMEOUT" 10
  let statementTimeout ← seconds env "PGFLEET_STATEMENT_TIMEOUT" 30
  let renewMargin ← seconds env "PGFLEET_RENEW_MARGIN" 5
  let settings : Settings := {
    lease := { defaultTtl, maxTtl }
    connectTimeout, statementTimeout, renewMargin
    tracing := { directive := (env "PGFLEET_LOG_LEVEL").getD "info", format := logFormat env } }
  settings.validate
  return settings

end Settings

end LeaseBroker
