import LeaseBroker.Fields
import LeaseBroker.Outcome

/-!
# Requests and responses

What passes between a host and the broker. A response carries data, warnings
and, where a credential was issued or renewed, a lease; a refusal goes into the
response as well.
-/

namespace LeaseBroker

structure Request where
  operation : Operation
  path : String
  data : Fields.Data := Table.empty
  /-- The caller's name for itself, with which issued logins begin. -/
  displayName : String := "token"

namespace Request

/-- Sets the fields; a value that is no object leaves them as they are. -/
def withData (r : Request) (v : Json) : Request := { r with data := v.toTable?.getD r.data }

end Request

structure LeaseInfo where
  ttl : UInt64
  maxTtl : UInt64
  /-- The bookkeeping to hand back on renewal and revocation. -/
  internal : Table Json

structure Response where
  data : Table Json := Table.empty
  warnings : List Warning := []
  error : Option Refusal := none
  lease : Option LeaseInfo := none

namespace Response

def ofData (data : Table Json) : Response := { data }

/-- A response with the fields of an object, or with none. -/
def ofJson (v : Json) : Response := { data := v.toTable?.getD Table.empty }

def ofKeys (keys : List String) : Response := ofData (Table.ofList [("keys", .strings keys)])

def ofRefusal (why : Refusal) : Response := { error := some why }

def ofOutcome {α : Type} (o : Outcome α) : Response := { warnings := o.warnings }

def isError (r : Response) : Bool := r.error.isSome

/-- The texts under `keys`, if a list stands there. -/
def keys (r : Response) : List String :=
  match r.data.get? "keys" with
  | some (.array items) => items.filterMap fun
    | .string s => some s
    | _ => none
  | _ => []

def leaseJson (l : LeaseInfo) : Json :=
  .object [("ttl", .nat l.ttl.toNat), ("max_ttl", .nat l.maxTtl.toNat), ("internal", .ofTable l.internal)]

/-- The response as the host reads it; what is empty is left out, except for the data. -/
def toJson (r : Response) : Json :=
  .object ([("data", .ofTable r.data)] ++
    (if r.warnings.isEmpty then [] else [("warnings", .strings (r.warnings.map (·.message)))]) ++
    (r.error.toList.map fun why => ("error", .string why.message)) ++
    (r.lease.toList.map fun l => ("lease", leaseJson l)))

end Response

end LeaseBroker
