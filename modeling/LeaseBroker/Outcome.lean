import LeaseBroker.BrokerError
import LeaseBroker.Quoted

/-!
# Outcomes and their warnings

An operation that succeeds may still have something to say: that a password is
no longer valid, that a lease was cut short, or that a step which could be done
without has failed. Warnings stand in the order in which they arose.
-/

namespace LeaseBroker

inductive Warning where
  | rootPasswordRotated
  | managementRoleCreated (role : String)
  | cacheFlushFailed (e : SqlError)
  | deletedClusterManaged
  | connectionsNotClosed (e : SqlError)
  -- clones
  | cloneLoginNotClosed (e : SqlError)
  | databasesNotListed (e : StoreError)
  | databaseVanished (database : String)
  | databaseNotLoaded (database : String) (e : BrokerError)
  | databaseNotStored (database : String) (e : BrokerError)
  | databasesInherited (copied total : Nat)
  -- leases
  | termExceeded
  | termCapped (wanted granted : Span)
  | roleNotFound (role : String)
  | revocationFailed (index : Nat) (template : String) (e : SqlError)
  /-- A warning in words of the caller's own. -/
  | worded (words : String)
  deriving DecidableEq, Repr

namespace Warning

def message : Warning → String
  | rootPasswordRotated => "The root password has been rotated. Old password will no longer work"
  | managementRoleCreated role => s!"A management role with name '{role}' has been created"
  | cacheFlushFailed e => "Failed to flush existing connections after update. error: " ++ e.message
  | deletedClusterManaged => "Use gc/cluster to manage deleted clusters"
  | connectionsNotClosed e => "Failed to revoke active connections. error: " ++ e.message
  | cloneLoginNotClosed e => "failed to close old management user connection. " ++ e.message
  | databasesNotListed e => "failed to list databases in existing cluster. " ++ e.message
  | databaseVanished d => s!"failed to load configuration for existing database {d}. record disappeared"
  | databaseNotLoaded d e => s!"failed to load configuration for existing database {d}. " ++ e.message
  | databaseNotStored d e => s!"failed to store configuration for cloned database {d}. " ++ e.message
  | databasesInherited copied total => s!"{copied} of {total} databases inherited successfully"
  | termExceeded => "lease is past the max TTL and cannot be renewed"
  | termCapped wanted granted =>
    "TTL of " ++ toString wanted.secs ++ "s exceeded the effective max_ttl of " ++ toString granted.secs ++
      "s; TTL value is capped accordingly"
  | roleNotFound role => s!"Role {role} was not found, using default revocation SQL"
  | revocationFailed index template e =>
    s!"failed to run revocation query [{index}]: " ++ Quoted.quote template ++ " - " ++ e.message
  | worded words => words

end Warning

/-- A result with the warnings that came with it. -/
structure Outcome (α : Type) where
  value : α
  warnings : List Warning := []
  deriving Repr

namespace Outcome

def warn {α : Type} (o : Outcome α) (w : Warning) : Outcome α := { o with warnings := o.warnings ++ [w] }

def map {α β : Type} (f : α → β) (o : Outcome α) : Outcome β := ⟨f o.value, o.warnings⟩

end Outcome

end LeaseBroker
