import LeaseBroker.BrokerError
import LeaseBroker.ConnectionCache
import LeaseBroker.Instant
import LeaseBroker.Uuid

/-!
# Operations as programs of calls

An operation asks its surroundings for one thing at a time: the store, a
server, the cache, the clock, a random value. Each such call is one
indivisible step, and between two of them anything else may happen. A program
says which call comes next for each answer to the last one. It can be run to
its end against a state, or a step at a time beside others.
-/

namespace LeaseBroker

/-- A transaction on a connection. The serial number tells apart two on one connection. -/
structure Transaction where
  serial : Nat
  connection : Connection
  deriving DecidableEq, Repr

inductive Call where
  -- the store
  | fetch (key : String)
  | put (key value : String)
  | delete (key : String)
  | list (above : String)
  -- servers
  | connect (target : Target)
  | execute (connection : Connection) (sql : String)
  | start (connection : Connection)
  | close (connection : Connection)
  | run (transaction : Transaction) (sql : String)
  | commit (transaction : Transaction)
  | rollback (transaction : Transaction)
  -- the broker's own state
  | find (key : ConnectionKey)
  | keep (key : ConnectionKey) (generation : Nat) (connection : Connection)
  | evict (what : Eviction)
  | tally (what : Tally)
  | metrics
  -- random values and time
  | uuid
  | password
  | now
  deriving DecidableEq, Repr

/-- What a call is answered with. -/
def Call.Answer : Call → Type
  | fetch _ => Except StoreError (Option String)
  | put .. => Except StoreError Unit
  | delete _ => Except StoreError Unit
  | list _ => Except StoreError (List String)
  | connect _ => Except SqlError Connection
  | execute .. => Except SqlError Unit
  | start _ => Except SqlError Transaction
  | close _ => Except SqlError Unit
  | run .. => Except SqlError Unit
  | commit _ => Except SqlError Unit
  | rollback _ => Except SqlError Unit
  | find _ => ConnectionCache.Found
  | keep .. => ConnectionCache.Placement
  | evict _ => List (ConnectionKey × Connection)
  | tally _ => Unit
  | metrics => Metrics
  | uuid => Uuid
  | password => String
  | now => Instant

/-- A result, or a call and what to do with each answer. -/
inductive Program (α : Type) where
  | done (a : α)
  | call (c : Call) (next : c.Answer → Program α)

namespace Program

variable {α β σ : Type}

def bind : Program α → (α → Program β) → Program β
  | done a, f => f a
  | call c next, f => call c fun r => bind (next r) f

instance : Monad Program where
  pure := done
  bind := bind

theorem bind_done (p : Program α) : bind p done = p := by
  induction p with
  | done a => rfl
  | call c next ih => exact congrArg (call c) (funext ih)

theorem bind_assoc {γ : Type} (p : Program α) (f : α → Program β) (g : β → Program γ) :
    bind (bind p f) g = bind p fun a => bind (f a) g := by
  induction p with
  | done a => rfl
  | call c next ih => exact congrArg (call c) (funext ih)

instance : LawfulMonad Program := LawfulMonad.mk' Program bind_done (fun _ _ => rfl) bind_assoc

/-! ## Running -/

/-- A way to answer calls from a state that they change. -/
abbrev Answers (σ : Type) := (c : Call) → σ → c.Answer × σ

/-- Runs a program to its end, with nothing in between. -/
def run (answers : Answers σ) : Program α → σ → α × σ
  | done a, s => (a, s)
  | call c next, s => run answers (next (answers c s).1) (answers c s).2

/-! ## Single calls -/

def fetch (key : String) : Program (Except StoreError (Option String)) := call (.fetch key) done

def put (key value : String) : Program (Except StoreError Unit) := call (.put key value) done

def delete (key : String) : Program (Except StoreError Unit) := call (.delete key) done

def list (above : String) : Program (Except StoreError (List String)) := call (.list above) done

def connect (t : Target) : Program (Except SqlError Connection) := call (.connect t) done

def execute (c : Connection) (sql : String) : Program (Except SqlError Unit) := call (.execute c sql) done

def start (c : Connection) : Program (Except SqlError Transaction) := call (.start c) done

def close (c : Connection) : Program (Except SqlError Unit) := call (.close c) done

/-- Runs a statement inside a transaction. -/
def within (t : Transaction) (sql : String) : Program (Except SqlError Unit) := call (.run t sql) done

def commit (t : Transaction) : Program (Except SqlError Unit) := call (.commit t) done

def rollback (t : Transaction) : Program (Except SqlError Unit) := call (.rollback t) done

def find (key : ConnectionKey) : Program ConnectionCache.Found := call (.find key) done

def keep (key : ConnectionKey) (generation : Nat) (c : Connection) : Program ConnectionCache.Placement :=
  call (.keep key generation c) done

def evict (what : Eviction) : Program (List (ConnectionKey × Connection)) := call (.evict what) done

def tally (what : Tally) : Program Unit := call (.tally what) done

def metrics : Program Metrics := call .metrics done

def uuid : Program Uuid := call .uuid done

def password : Program String := call .password done

def now : Program Instant := call .now done

end Program

/-- A program that may end in an error. -/
abbrev Op := ExceptT BrokerError Program

namespace Op

variable {α : Type}

def refuse (why : Refusal) : Op α := throw (.refused why)

def ofStore (p : Program (Except StoreError α)) : Op α := ExceptT.mk do return (← p).mapError .store

def ofSql (p : Program (Except SqlError α)) : Op α := ExceptT.mk do return (← p).mapError .sql

def ofRefusal (r : Except Refusal α) : Op α := ExceptT.mk (pure (r.mapError .refused))

/-- Says in the error of a store or a server what was being attempted. -/
def inContext (what : String) (p : Op α) : Op α := ExceptT.adapt (BrokerError.inContext what) p

/-- Does `q` after `p`, whether `p` succeeds or not. -/
def andAlways (p : Op α) (q : Program Unit) : Op α :=
  ExceptT.mk do
    let r ← p.run
    q
    return r

end Op

end LeaseBroker
