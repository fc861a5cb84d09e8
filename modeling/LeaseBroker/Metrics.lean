/-!
# Metrics

Counters only grow, and wrap around at 64 bits. A gauge also falls, but not
below zero. Both are reported in the text format of Prometheus, counters first.
-/

namespace LeaseBroker

/-- A number with a name and a line of help. -/
structure Series where
  name : String
  help : String
  value : UInt64
  deriving DecidableEq, Repr

namespace Series

def zero (name help : String) : Series := ⟨name, help, 0⟩

def add (s : Series) (n : UInt64) : Series := { s with value := s.value + n }

def inc (s : Series) : Series := s.add 1

/-- One less, or zero. -/
def dec (s : Series) : Series := { s with value := if s.value = 0 then 0 else s.value - 1 }

def set (s : Series) (n : UInt64) : Series := { s with value := n }

def exposition (s : Series) (kind : String) : String :=
  "# HELP " ++ s.name ++ " " ++ s.help ++ "\n# TYPE " ++ s.name ++ " " ++ kind ++ "\n" ++ s.name ++ " " ++
    toString s.value ++ "\n"

end Series

/-- The report of counters and gauges. -/
def exposition (counters gauges : List Series) : String :=
  String.join (counters.map (·.exposition "counter") ++ gauges.map (·.exposition "gauge"))

/-- The numbers that the broker keeps. -/
structure Metrics where
  opened : Series := .zero "pgfleet_connections_opened_total" "Connections opened to target clusters"
  evicted : Series := .zero "pgfleet_connections_evicted_total" "Cached connections evicted by invalidation"
  cached : Series := .zero "pgfleet_connections_cached" "Connections currently cached"
  issued : Series := .zero "pgfleet_credentials_issued_total" "Credentials issued"
  renewed : Series := .zero "pgfleet_credentials_renewed_total" "Leases renewed"
  revoked : Series := .zero "pgfleet_credentials_revoked_total" "Leases revoked"
  deriving DecidableEq, Repr

/-- What the broker counts. -/
inductive Tally where
  | opened
  /-- A connection left the cache. -/
  | evicted
  /-- A connection entered the cache. -/
  | cached
  | issued
  | renewed
  | revoked
  deriving DecidableEq, Repr

namespace Metrics

def tally (m : Metrics) : Tally → Metrics
  | .opened => { m with opened := m.opened.inc }
  | .evicted => { m with evicted := m.evicted.inc, cached := m.cached.dec }
  | .cached => { m with cached := m.cached.inc }
  | .issued => { m with issued := m.issued.inc }
  | .renewed => { m with renewed := m.renewed.inc }
  | .revoked => { m with revoked := m.revoked.inc }

def text (m : Metrics) : String := exposition [m.opened, m.evicted, m.issued, m.renewed, m.revoked] [m.cached]

end Metrics

end LeaseBroker
