import LeaseBroker.Instant
import LeaseBroker.Outcome
import LeaseBroker.Settings

/-!
# The term of a lease

A lease lasts as long as was asked for, else as its role says, else as the
system says, and never past its first issue by more than the maximum of the
system and the role. Zero stands for a value that is not given.
-/

namespace LeaseBroker

structure TermRequest where
  /-- The time asked for; zero leaves it to the role. -/
  increment : Span
  /-- The role's own term; zero leaves it to the system. -/
  roleTtl : Span
  /-- The role's maximum; zero leaves it to the system. -/
  roleMaxTtl : Span
  issued : Instant
  now : Instant
  deriving DecidableEq, Repr

namespace TermRequest

/-- The maximum of the system, lowered to that of the role. -/
def maximum (limits : LeaseLimits) (r : TermRequest) : Span :=
  if !r.roleMaxTtl.isZero && r.roleMaxTtl < limits.maxTtl then r.roleMaxTtl else limits.maxTtl

def wanted (limits : LeaseLimits) (r : TermRequest) : Span :=
  if !r.increment.isZero then r.increment
  else if !r.roleTtl.isZero then r.roleTtl
  else limits.defaultTtl

/-- What is left of the maximum. An issue in the future counts as now. -/
def remaining (limits : LeaseLimits) (r : TermRequest) : Span := (r.maximum limits).sub (r.now.since r.issued)

/-- The term that is granted, with a warning where it is less than wanted. -/
def grant (limits : LeaseLimits) (r : TermRequest) : Outcome Span :=
  if (r.remaining limits).isZero then { value := .zero, warnings := [.termExceeded] }
  else if r.remaining limits < r.wanted limits then
    { value := r.remaining limits, warnings := [.termCapped (r.wanted limits) (r.remaining limits)] }
  else { value := r.wanted limits }

end TermRequest

end LeaseBroker
