import LeaseBroker.Router
import LeaseBroker.World

/-!
# Rehearsals

A broker in a world of its own, worked step by step: by requests, by the leases
it has handed out, by the passing of time, and by changes to the store and the
servers that the broker does not know of.
-/

namespace LeaseBroker

structure Rehearsal where
  settings : Settings
  world : World
  /-- The bookkeeping of the leases that were issued, oldest first. -/
  leases : List (Table Json)

/-- The bookkeeping that comes with a renewal or a revocation. -/
structure LeaseReference where
  /-- A lease that was issued, by its place; or else bookkeeping of the caller's own. -/
  origin : Nat ⊕ Table Json
  /-- Fields to put in. -/
  set : Table Json := Table.empty
  /-- Fields to take out then. -/
  unset : List String := []

namespace Rehearsal

def starting (settings : Settings) (t : Instant) : Rehearsal := ⟨settings, World.starting t, []⟩

/-! ## What the broker does -/

def perform {α : Type} (p : Op α) (r : Rehearsal) : Except BrokerError α × Rehearsal :=
  ((r.world.run p.run).1, { r with world := (r.world.run p.run).2 })

def record (internal : Table Json) (r : Rehearsal) : Rehearsal := { r with leases := r.leases ++ [internal] }

/-- Answers a request and records the lease that comes of it. -/
def handle (request : Request) (r : Rehearsal) : Except BrokerError Response × Rehearsal :=
  match r.perform (Router.handle r.settings request) with
  | (.ok response, r) =>
    match response.lease with
    | some lease => (.ok response, r.record lease.internal)
    | none => (.ok response, r)
  | answer => answer

/-- Issues a credential and records its lease. -/
def issue (cluster database role displayName : String) (r : Rehearsal) : Except BrokerError Credential × Rehearsal :=
  match r.perform (Credentials.issueCredential r.settings cluster database role displayName) with
  | (.ok c, r) => (.ok c, r.record c.secret.toInternal)
  | answer => answer

/-- The bookkeeping that is referred to, if there is such a lease. -/
def bookkeeping? (l : LeaseReference) (r : Rehearsal) : Option (Table Json) :=
  let origin := match l.origin with
    | .inl place => r.leases[place]?
    | .inr internal => some internal
  origin.map fun internal => l.unset.foldl (·.erase ·) (l.set.entries.foldl (fun t e => t.insert e.1 e.2) internal)

/-- Gets a connection through the cache, and closes it behind the back of the cache if told so. -/
def probe (key : ConnectionKey) (closing : Bool) (r : Rehearsal) : Except BrokerError Unit × Rehearsal :=
  r.perform do
    let c ← Connections.get key
    if closing then Op.ofSql (Program.close c)

/-- Invalidates connections; the answer is their number. -/
def evict (what : Eviction) (r : Rehearsal) : Except BrokerError Nat × Rehearsal :=
  r.perform (Op.ofSql (Connections.invalidate what))

/-! ## What happens around it -/

def changeWorld (f : World → World) (r : Rehearsal) : Rehearsal := { r with world := f r.world }

def changeServers (f : Recorder → Recorder) (r : Rehearsal) : Rehearsal :=
  r.changeWorld fun w => { w with servers := f w.servers }

/-- Moves the clock by nanoseconds. -/
def advance (nanos : Int) (r : Rehearsal) : Rehearsal :=
  r.changeWorld fun w => { w with clock := w.clock.shifted nanos }

/-- Puts a value into the store past all rules. -/
def store (key value : String) (r : Rehearsal) : Except BrokerError Unit × Rehearsal :=
  ((r.world.store.put key value).1.mapError .store,
    r.changeWorld fun w => { w with store := (w.store.put key value).2 })

def setStoreUnavailable (on : Bool) (r : Rehearsal) : Rehearsal :=
  r.changeWorld fun w => { w with store := { w.store with unavailable := on } }

/-- Refuses statements from now on that hold a part. -/
def refuse (part : String) (r : Rehearsal) : Rehearsal :=
  r.changeServers fun s => { s with refusing := s.refusing ++ [part] }

def setUnreachable (on : Bool) (r : Rehearsal) : Rehearsal := r.changeServers fun s => { s with unreachable := on }

def setFailingClose (on : Bool) (r : Rehearsal) : Rehearsal := r.changeServers fun s => { s with failingClose := on }

def addServerRule (rule : Rule ServerEvent ServerAction) (r : Rehearsal) : Rehearsal :=
  r.changeWorld fun w => { w with serverRules := w.serverRules ++ [rule] }

def addStoreRule (rule : Rule StoreEvent StoreAction) (r : Rehearsal) : Rehearsal :=
  r.changeWorld fun w => { w with storeRules := w.storeRules ++ [rule] }

/-- Drops all rules and refused parts; what is switched on stays on. -/
def clearRules (r : Rehearsal) : Rehearsal :=
  (r.changeServers fun s => { s with refusing := [] }).changeWorld fun w =>
    { w with serverRules := [], storeRules := [] }

/-- Starts a new record of statements and targets. -/
def startRecord (r : Rehearsal) : Rehearsal := r.changeServers (·.cleared)

/-! ## What can be seen -/

/-- The values that can be read from the store. -/
def readable (r : Rehearsal) : Table String := if r.world.store.unavailable then .empty else r.world.store.values

/-- Counts of what servers, cache and broker have done so far. -/
def counts (r : Rehearsal) : List Nat :=
  let s := r.world.servers
  let m := r.world.broker.metrics
  [s.connects, s.closes, s.commits, s.rollbacks, r.world.broker.cache.entries.length] ++
    [m.cached, m.opened, m.evicted, m.issued, m.renewed, m.revoked].map (·.value.toNat)

end Rehearsal

end LeaseBroker
