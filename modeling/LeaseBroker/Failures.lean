import LeaseBroker.Span

/-!
# Failures of servers and stores

What a server or a store reports when it does not do as asked. Context says
what was being attempted; it goes in front of the report of a server, where
that report is free text.
-/

namespace LeaseBroker

inductive SqlError where
  /-- The connection could not be opened. -/
  | connect (report : String)
  /-- The server rejected a statement. -/
  | statement (report : String)
  /-- Begin, commit or rollback failed. -/
  | transaction (report : String)
  | timeout (limit : Span)
  /-- The connection had been closed before. -/
  | closed
  /-- The connection did not close cleanly. -/
  | close (report : String)
  deriving DecidableEq, Repr

namespace SqlError

def message : SqlError → String
  | connect m => "Error validating connection. Error: " ++ m
  | statement m => m
  | transaction m => "Transaction error: " ++ m
  | timeout d => "Statement timed out after " ++ d.text
  | closed => "Connection is closed"
  | close m => m

def inContext (what : String) : SqlError → SqlError
  | connect m => connect (what ++ ". " ++ m)
  | statement m => statement (what ++ ". " ++ m)
  | transaction m => transaction (what ++ ". " ++ m)
  | e => e

end SqlError

inductive StoreError where
  | backend (report : String)
  | invalidKey (key : String)
  deriving DecidableEq, Repr

namespace StoreError

def message : StoreError → String
  | backend m => "Storage error: " ++ m
  | invalidKey k => "Invalid storage key: " ++ k

end StoreError

end LeaseBroker
