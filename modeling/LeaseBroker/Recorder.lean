import LeaseBroker.ConnectionCache
import LeaseBroker.Failures
import LeaseBroker.Program
import LeaseBroker.Search

/-!
# Recording servers

Servers that do what they are asked, keep no data and write down every
statement they get. They can be told to refuse statements by a part of their
text, to refuse connections, and to fail whenever one is closed. A transaction
that has begun outlives its connection.
-/

namespace LeaseBroker

/-- A statement that a server was sent. -/
structure Statement where
  login : String
  database : String
  sql : String
  inTransaction : Bool
  refused : Bool
  deriving DecidableEq, Repr

structure Recorder where
  /-- Parts of the statements to refuse; the first that fits is reported. -/
  refusing : List String := []
  unreachable : Bool := false
  failingClose : Bool := false
  /-- How many connections were opened. -/
  connects : Nat := 0
  /-- How often a connection was closed. -/
  closes : Nat := 0
  starts : Nat := 0
  commits : Nat := 0
  rollbacks : Nat := 0
  /-- The serial numbers of the connections that were closed. -/
  closed : List Nat := []
  /-- The statements in the order in which they came. -/
  statements : List Statement := []
  /-- The targets of the connections in the order in which they were opened. -/
  targets : List Target := []
  deriving DecidableEq, Repr

namespace Recorder

instance : Inhabited Recorder := ⟨{}⟩

def connect (s : Recorder) (t : Target) : Except SqlError Connection × Recorder :=
  if s.unreachable then (.error (.connect ("connection refused by " ++ t.host ++ ":" ++ toString t.port)), s)
  else (.ok ⟨s.connects, t⟩, { s with connects := s.connects + 1, targets := s.targets ++ [t] })

/-- Writes a statement down and accepts or refuses it. -/
def receive (s : Recorder) (c : Connection) (inTransaction : Bool) (sql : String) : Except SqlError Unit × Recorder :=
  let fitting := s.refusing.find? (Search.contains sql)
  let statement : Statement := {
    login := c.target.username, database := c.target.database, sql, inTransaction, refused := fitting.isSome }
  (match fitting with
    | some part => .error (.statement ("injected failure on " ++ Quoted.quote part))
    | none => .ok (),
    { s with statements := s.statements ++ [statement] })

def isClosed (s : Recorder) (c : Connection) : Bool := s.closed.contains c.serial

def execute (s : Recorder) (c : Connection) (sql : String) : Except SqlError Unit × Recorder :=
  if s.isClosed c then (.error .closed, s) else s.receive c false sql

def start (s : Recorder) (c : Connection) : Except SqlError Transaction × Recorder :=
  if s.isClosed c then (.error .closed, s) else (.ok ⟨s.starts, c⟩, { s with starts := s.starts + 1 })

/-- The connection is closed even where that is answered with a failure. -/
def close (s : Recorder) (c : Connection) : Except SqlError Unit × Recorder :=
  (if s.failingClose then .error (.close "injected close failure") else .ok (),
    { s with closes := s.closes + 1, closed := c.serial :: s.closed })

def within (s : Recorder) (t : Transaction) (sql : String) : Except SqlError Unit × Recorder :=
  s.receive t.connection true sql

def commit (s : Recorder) (_ : Transaction) : Except SqlError Unit × Recorder :=
  (.ok (), { s with commits := s.commits + 1 })

def rollback (s : Recorder) (_ : Transaction) : Except SqlError Unit × Recorder :=
  (.ok (), { s with rollbacks := s.rollbacks + 1 })

/-- Forgets the statements and the targets, and nothing else. -/
def cleared (s : Recorder) : Recorder := { s with statements := [], targets := [] }

end Recorder

end LeaseBroker
