import LeaseBroker.Failures
import LeaseBroker.Refusal

/-!
# Errors of the broker

An operation ends in an error when it is refused, when a store or a server
fails, when a stored record cannot be read, or when the broker cannot go on.
Only refusals are the caller's; all else is a failure and fatal to the
operation.
-/

namespace LeaseBroker

inductive BrokerError where
  | refused (why : Refusal)
  | store (e : StoreError)
  | sql (e : SqlError)
  /-- A stored record is not of the expected form. -/
  | serialization (report : String)
  | internal (report : String)
  deriving DecidableEq, Repr

namespace BrokerError

def errorClass : BrokerError → ErrorClass
  | refused why => .refusal why.kind
  | _ => .failure

def isCallerError (e : BrokerError) : Bool := e.errorClass.isCallerError

def message : BrokerError → String
  | refused why => why.message
  | store e => e.message
  | sql e => e.message
  | serialization m => "Serialization error: " ++ m
  | internal m => "Internal error: " ++ m

/-- Says what was being attempted when a store or a server failed. -/
def inContext (what : String) : BrokerError → BrokerError
  | sql e => sql (e.inContext what)
  | store e => store (.backend (what ++ ". " ++ e.message))
  | e => e

end BrokerError

end LeaseBroker
