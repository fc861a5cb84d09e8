import LeaseBroker.Connections
import LeaseBroker.MemoryStore
import LeaseBroker.Recorder
import LeaseBroker.Rules

/-!
# A world to run programs in

A store in memory, servers that record, a broker's own state, and a clock and
random values that are known beforehand. Rules can make single calls fail. A
rule on the calls to servers can also get in between and use the cache, as
another caller would who runs at the same time.
-/

namespace LeaseBroker

/-- The calls to servers that rules are about. -/
inductive ServerEvent where
  | connect
  | execute
  | start
  | within
  | commit
  | rollback
  | close
  deriving DecidableEq, Repr

/-- The calls to the store that rules are about. -/
inductive StoreEvent where
  | get
  | put
  | delete
  | list
  deriving DecidableEq, Repr

/-- A use of the cache by someone else. -/
inductive Intrusion where
  | get (key : ConnectionKey)
  | evict (what : Eviction)
  deriving DecidableEq, Repr

/-- What a rule does to a call to a server. -/
inductive ServerAction where
  | fail (e : SqlError)
  | intrude (what : Intrusion)
  deriving DecidableEq, Repr

/-- What a rule does to a call to the store. -/
inductive StoreAction where
  | fail (report : String)
  /-- A key that is read seems not to be there. -/
  | hide
  deriving DecidableEq, Repr

namespace Intrusion

/-- Results are of no interest to anyone else. -/
def program : Intrusion → Program Unit
  | get key => do
    let _ ← (Connections.get key).run
    return ()
  | evict what => do
    let _ ← Connections.invalidate what
    return ()

end Intrusion

structure World where
  store : MemoryStore
  servers : Recorder
  broker : BrokerState
  storeRules : List (Rule StoreEvent StoreAction)
  serverRules : List (Rule ServerEvent ServerAction)
  /-- How many UUIDs were made. -/
  uuids : Nat
  /-- How many passwords were made. -/
  passwords : Nat
  clock : Instant

namespace World

/-- Nothing stored, nothing cached, and the clock at `t`. -/
def starting (t : Instant) : World where
  store := .empty
  servers := {}
  broker := .empty
  storeRules := []
  serverRules := []
  uuids := 0
  passwords := 0
  clock := t

/-! ## Values that are known beforehand -/

/-- The number whose hexadecimal digits are the decimal digits of `n`. -/
def digitsAsHex (n : Nat) : Nat := (Integers.digits n).foldl (fun v c => 16 * v + Integers.digitValue c) 0

/-- The UUID of the fourth version that counts in its last group. -/
def numberedUuid (n : Nat) : Uuid := BitVec.ofNat 128 (0x4000_8000_0000_0000_0000 + digitsAsHex n)

def alphabet : List Char := "abcdefghijklmnopqrstuvwxyz".toList

/-- The password of 36 characters that counts behind its first two. -/
def numberedPassword (n : Nat) : String :=
  String.ofList (('P' :: 'w' :: Integers.padded 4 n ++ alphabet ++ alphabet).take 36)

/-! ## Calls to the store -/

/-- Makes a call to the store as far as the rules let it. -/
def onStore {α : Type} (event : StoreEvent) (text : String) (hidden : Option α)
    (call : MemoryStore → Except StoreError α × MemoryStore) (w : World) : Except StoreError α × World :=
  let (action, storeRules) := Rule.consult event text w.storeRules
  let w := { w with storeRules }
  let through := ((call w.store).1, { w with store := (call w.store).2 })
  match action, hidden with
  | some (.fail report), _ => (.error (.backend report), w)
  | some .hide, some a => (.ok a, w)
  | _, _ => through

/-! ## Calls to servers -/

/-- Makes a call to a server, in front of which a rule may fail or intrude. -/
def onServer {α : Type} (intrude : Intrusion → World → World) (event : ServerEvent) (text : String)
    (call : Recorder → Except SqlError α × Recorder) (w : World) : Except SqlError α × World :=
  let (action, serverRules) := Rule.consult event text w.serverRules
  let through (w : World) := ((call w.servers).1, { w with servers := (call w.servers).2 })
  match action with
  | some (.fail e) => (.error e, { w with serverRules })
  | some (.intrude what) => through (intrude what { w with serverRules })
  | none => through { w with serverRules }

/-- Closes a connection, also when a rule makes it look like a failure. -/
def onClose (intrude : Intrusion → World → World) (c : Connection) (w : World) : Except SqlError Unit × World :=
  let (action, serverRules) := Rule.consult .close "" w.serverRules
  let through (w : World) := ((w.servers.close c).1, { w with servers := (w.servers.close c).2 })
  match action with
  | some (.fail e) => (.error e, (through { w with serverRules }).2)
  | some (.intrude what) => through (intrude what { w with serverRules })
  | none => through { w with serverRules }

/-! ## All calls -/

/-- Answers a call, given what an intrusion does. -/
def answer (intrude : Intrusion → World → World) : Program.Answers World
  | .fetch key, w => w.onStore .get key (some none) fun s => (s.get key, s)
  | .put key value, w => w.onStore .put key none (·.put key value)
  | .delete key, w => w.onStore .delete key none (·.delete key)
  | .list above, w => w.onStore .list above none fun s => (s.list above, s)
  | .connect t, w => w.onServer intrude .connect t.username (·.connect t)
  | .execute c sql, w => w.onServer intrude .execute sql (·.execute c sql)
  | .start c, w => w.onServer intrude .start "" (·.start c)
  | .close c, w => w.onClose intrude c
  | .run t sql, w => w.onServer intrude .within sql (·.within t sql)
  | .commit t, w => w.onServer intrude .commit "" (·.commit t)
  | .rollback t, w => w.onServer intrude .rollback "" (·.rollback t)
  | .find key, w => (w.broker.cache.find key, w)
  | .keep key generation c, w =>
    ((w.broker.keep key generation c).1, { w with broker := (w.broker.keep key generation c).2 })
  | .evict what, w => ((w.broker.evict what).1, { w with broker := (w.broker.evict what).2 })
  | .tally what, w => ((), { w with broker := w.broker.tally what })
  | .metrics, w => (w.broker.metrics, w)
  | .uuid, w => (numberedUuid (w.uuids + 1), { w with uuids := w.uuids + 1 })
  | .password, w => (numberedPassword (w.passwords + 1), { w with passwords := w.passwords + 1 })
  | .now, w => (w.clock, w)

/-- Answers a call with intrusions nested at most `depth` deep. -/
def answerWithin : Nat → Program.Answers World
  | 0 => answer fun _ w => w
  | depth + 1 => answer fun what w => (Program.run (answerWithin depth) what.program w).2

/-- Answers a call. Every intrusion uses up one action of a rule, so that no more can be nested than are left. -/
def perform : Program.Answers World := fun c w => answerWithin (Rule.remaining w.serverRules) c w

/-- Runs a program to its end. -/
def run {α : Type} (p : Program α) (w : World) : α × World := Program.run perform p w

end World

end LeaseBroker
