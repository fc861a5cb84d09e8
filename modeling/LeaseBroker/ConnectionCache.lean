import LeaseBroker.Metrics
import LeaseBroker.Table
import LeaseBroker.Target

/-!
# The cache of connections

Connections are kept by login, cluster and database. Each cluster has a
generation, which every invalidation of one of its connections raises. A
connection that was opened under an older generation is not kept, because the
record it was opened from may have been replaced meanwhile.
-/

namespace LeaseBroker

/-- An open connection. The serial number tells apart two with one target. -/
structure Connection where
  serial : Nat
  target : Target
  deriving DecidableEq, Repr

/-- What a cached connection is for. Without a database it is the cluster's maintenance database. -/
structure ConnectionKey where
  kind : LoginKind
  cluster : String
  database : Option String
  deriving DecidableEq, Repr

namespace ConnectionKey

def text (k : ConnectionKey) : String :=
  match k.database with
  | some database => k.kind.text ++ "/" ++ k.cluster ++ "/" ++ database
  | none => k.kind.text ++ "/" ++ k.cluster

end ConnectionKey

/-- What an invalidation covers. -/
inductive Eviction where
  | cluster (cluster : String)
  | database (cluster database : String)
  | everything
  deriving DecidableEq, Repr

namespace Eviction

def covers : Eviction → ConnectionKey → Bool
  | cluster c, k => k.cluster == c
  | database c d, k => k.cluster == c && k.database == some d
  | everything, _ => true

end Eviction

structure ConnectionCache where
  /-- In the order in which the connections were cached. -/
  entries : List (ConnectionKey × Connection)
  /-- The generation of each cluster that was ever invalidated. They have no bound here, where the broker counts in
      64 bits: the two agree as long as the generation of no cluster is raised 2 ^ 64 times in the life of a broker. -/
  generations : Table Nat

namespace ConnectionCache

/-- The answer to a look-up: the cached connection, or the generation at which one may be opened. -/
inductive Found where
  | cached (connection : Connection)
  | missing (generation : Nat)
  deriving DecidableEq, Repr

/-- What became of a connection that was to be cached. -/
inductive Placement where
  | kept
  /-- Another connection for the key came first. -/
  | present (connection : Connection)
  /-- The cluster was invalidated since the look-up. -/
  | superseded
  deriving DecidableEq, Repr

def empty : ConnectionCache := ⟨[], Table.empty⟩

instance : Inhabited ConnectionCache := ⟨empty⟩

def get? (s : ConnectionCache) (key : ConnectionKey) : Option Connection := s.entries.lookup key

def generation (s : ConnectionCache) (cluster : String) : Nat := (s.generations.get? cluster).getD 0

def raise (s : ConnectionCache) (cluster : String) : ConnectionCache :=
  { s with generations := s.generations.insert cluster (s.generation cluster + 1) }

def find (s : ConnectionCache) (key : ConnectionKey) : Found :=
  match s.get? key with
  | some c => .cached c
  | none => .missing (s.generation key.cluster)

/-- Caches a connection that was opened at `generation`, if it still is the cluster's and the key is free. -/
def keep (s : ConnectionCache) (key : ConnectionKey) (generation : Nat) (c : Connection) :
    Placement × ConnectionCache :=
  if s.generation key.cluster ≠ generation then (.superseded, s)
  else match s.get? key with
    | some existing => (.present existing, s)
    | none => (.kept, { s with entries := s.entries ++ [(key, c)] })

/-- The clusters whose generation an invalidation raises. -/
def raisedBy (s : ConnectionCache) : Eviction → List String
  | .cluster c => [c]
  | .database c _ => [c]
  | .everything => s.entries.map (·.1.cluster)

/-- Raises the generations and takes the covered connections out. They are handed out in the order in which they were
    cached, which is one of the orders the broker may close them in: its own map has none. -/
def evict (s : ConnectionCache) (e : Eviction) : List (ConnectionKey × Connection) × ConnectionCache :=
  (s.entries.filter (e.covers ·.1),
    { (s.raisedBy e).foldl raise s with entries := s.entries.filter (!e.covers ·.1) })

theorem generation_raise (s : ConnectionCache) (cluster other : String) :
    (s.raise cluster).generation other = if other = cluster then s.generation cluster + 1 else s.generation other := by
  unfold raise generation
  rw [Table.get?_insert]
  split <;> simp_all

theorem generation_foldl_raise (s : ConnectionCache) (clusters : List String) (cluster : String) :
    (clusters.foldl raise s).generation cluster = s.generation cluster + clusters.count cluster := by
  induction clusters generalizing s with
  | nil => rfl
  | cons other rest ih =>
    rw [List.foldl_cons, ih, generation_raise, List.count_cons]
    by_cases same : cluster = other
    · subst same
      simp
      omega
    · simp [same, Ne.symm same]

theorem generation_evict (s : ConnectionCache) (e : Eviction) (cluster : String) :
    (s.evict e).2.generation cluster = s.generation cluster + (s.raisedBy e).count cluster :=
  generation_foldl_raise s (s.raisedBy e) cluster

/-- A connection that is kept is the newest, and was opened at the generation that still holds. -/
theorem keep_eq (s : ConnectionCache) (key : ConnectionKey) (generation : Nat) (c : Connection) :
    (s.keep key generation c).2 = s ∨
      s.generation key.cluster = generation ∧ s.get? key = none ∧
        (s.keep key generation c).2 = { s with entries := s.entries ++ [(key, c)] } := by
  unfold keep
  split
  · exact .inl rfl
  · rename_i same
    split
    · exact .inl rfl
    · rename_i free
      exact .inr ⟨Decidable.not_not.1 same, free, rfl⟩

/-- With nothing in between a look-up and its end, the connection is kept. -/
theorem keep_of_missing {s : ConnectionCache} {key : ConnectionKey} {generation : Nat} (h : s.find key = .missing generation)
    (c : Connection) : s.keep key generation c = (.kept, { s with entries := s.entries ++ [(key, c)] }) := by
  unfold find at h
  split at h
  · cases h
  · rename_i free
    cases h
    unfold keep
    rw [if_neg (not_not_intro rfl), free]

theorem get?_of_cached {s : ConnectionCache} {key : ConnectionKey} {c : Connection} (h : s.find key = .cached c) :
    s.get? key = some c := by
  unfold find at h
  split at h
  · rename_i found
    cases h
    exact found
  · cases h

theorem get?_of_present {s : ConnectionCache} {key : ConnectionKey} {generation : Nat} {c existing : Connection}
    (h : (s.keep key generation c).1 = .present existing) : s.get? key = some existing := by
  unfold keep at h
  split at h
  · cases h
  · split at h
    · rename_i found
      cases h
      exact found
    · cases h

theorem get?_of_kept {s : ConnectionCache} {key : ConnectionKey} {generation : Nat} {c : Connection}
    (h : (s.keep key generation c).1 = .kept) : s.get? key = none := by
  unfold keep at h
  split at h
  · cases h
  · split at h
    · cases h
    · assumption

/-- Entries of other keys do not matter for a look-up. -/
theorem lookup_filter (entries : List (ConnectionKey × Connection)) {p : ConnectionKey → Bool} {key : ConnectionKey}
    (stays : p key = true) : (entries.filter (p ·.1)).lookup key = entries.lookup key := by
  induction entries with
  | nil => rfl
  | cons entry rest ih =>
    by_cases left : p entry.1 = true
    · rw [List.filter_cons, if_pos left, List.lookup_cons, List.lookup_cons, ih]
    · have apart : key ≠ entry.1 := fun same => left (same ▸ stays)
      rw [List.filter_cons, if_neg left, ih, List.lookup_cons, beq_false_of_ne apart]

theorem mem_of_get? {s : ConnectionCache} {key : ConnectionKey} {c : Connection} (h : s.get? key = some c) :
    (key, c) ∈ s.entries := by
  obtain ⟨before, after, split, -⟩ := List.lookup_eq_some_iff.1 h
  rw [split]
  simp

end ConnectionCache

/-- What a broker itself keeps between calls. -/
structure BrokerState where
  cache : ConnectionCache
  metrics : Metrics

namespace BrokerState

def empty : BrokerState := ⟨ConnectionCache.empty, {}⟩

instance : Inhabited BrokerState := ⟨empty⟩

/-- Caches a connection; the gauge moves in the same instant. -/
def keep (s : BrokerState) (key : ConnectionKey) (generation : Nat) (c : Connection) :
    ConnectionCache.Placement × BrokerState :=
  match s.cache.keep key generation c with
  | (.kept, cache) => (.kept, ⟨cache, s.metrics.tally .cached⟩)
  | (other, cache) => (other, { s with cache })

def evict (s : BrokerState) (e : Eviction) : List (ConnectionKey × Connection) × BrokerState :=
  ((s.cache.evict e).1, { s with cache := (s.cache.evict e).2 })

def tally (s : BrokerState) (t : Tally) : BrokerState := { s with metrics := s.metrics.tally t }

theorem cache_keep (s : BrokerState) (key : ConnectionKey) (generation : Nat) (c : Connection) :
    (s.keep key generation c).2.cache = (s.cache.keep key generation c).2 := by
  unfold keep
  split <;> simp_all

theorem placement_keep (s : BrokerState) (key : ConnectionKey) (generation : Nat) (c : Connection) :
    (s.keep key generation c).1 = (s.cache.keep key generation c).1 := by
  unfold keep
  split <;> simp_all

end BrokerState

end LeaseBroker
