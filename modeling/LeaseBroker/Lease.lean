import LeaseBroker.Json
import LeaseBroker.Refusal
import LeaseBroker.Span

/-!
# Bookkeeping of leases

The broker keeps no leases. What it must know to renew or revoke one goes to
the host with the credential and comes back with every later call, as a table
of texts under four keys.
-/

namespace LeaseBroker

/-- What identifies a leased login. -/
structure LeaseSecret where
  role : String
  username : String
  cluster : String
  database : String
  deriving DecidableEq, Repr

namespace LeaseSecret

def toInternal (s : LeaseSecret) : Table Json :=
  Table.ofList [("role", .string s.role), ("username", .string s.username), ("cluster", .string s.cluster),
    ("database", .string s.database)]

def textAt (internal : Table Json) (key : String) : Except Refusal String :=
  match internal.get? key with
  | none => .error (.bookkeepingMissing key)
  | some (.string s) => .ok s
  | some _ => .error (.bookkeepingNotText key)

def ofInternal (internal : Table Json) : Except Refusal LeaseSecret := do
  let role ← textAt internal "role"
  let username ← textAt internal "username"
  let cluster ← textAt internal "cluster"
  let database ← textAt internal "database"
  return { role, username, cluster, database }

end LeaseSecret

/-- A credential that was just made. -/
structure Credential where
  username : String
  password : String
  secret : LeaseSecret
  ttl : Span
  maxTtl : Span
  deriving DecidableEq, Repr

structure RenewedLease where
  /-- The new term; zero when the lease has reached its maximum. -/
  ttl : Span
  maxTtl : Span
  deriving DecidableEq, Repr

end LeaseBroker
