import LeaseBroker.Credentials

/-!
How long a lease lasts, in nanoseconds. A term is what is asked for, cut to what
is left of the maximum since the first issue (`nanos_renewalTerm`), and an
expiry that is sent with it lies no further from the issue than the maximum and
the margin (`line_validUntil_le`). On the calendar no sum or difference on the
way leaves its type. A new lease lasts as long as a renewal in the same instant
would make it last, just where its role need not cut it
(`issueTerm_eq_renewalTerm_iff`).
-/
namespace LeaseBroker

namespace Instant

/-! ## The line of time -/

/-- Nanoseconds from the start of 1970. A leap second reaches into the second that follows it. -/
def line (t : Instant) : Int := t.secs * 1_000_000_000 + t.nanos

/-- The first nanosecond of the year −262143. -/
def earliest : Instant := ofSecs (daysOfDate ⟨-262143, 1, 1⟩ * 86400)

/-- An instant between the first and the last one. -/
def OnCalendar (t : Instant) : Prop := earliest.secs ≤ t.secs ∧ t.secs ≤ latest.secs

/-- An instant that a clock can show. No clock shows a leap second as such. -/
structure OnClock (t : Instant) : Prop where
  onCalendar : t.OnCalendar
  regular : t.isLeap = false

theorem secs_earliest : earliest.secs = -8334601228800 := by decide

theorem secs_latest : latest.secs = 8210266876799 := by decide

theorem line_latest : latest.line = latest.secs * 1_000_000_000 + 999_999_999 := rfl

theorem line_ofNanos (n : Int) : (ofNanos n).line = n := by
  simp only [line, ofNanos]
  omega

theorem nanos_of_regular {t : Instant} (regular : t.isLeap = false) : t.nanos < 1_000_000_000 := by
  simpa [isLeap] using regular

variable {now issued : Instant}

/-- The instant after a span, or the last one. -/
theorem line_after (regular : now.isLeap = false) (d : Span) :
    (now.after d).isLeap = false ∧ (now.after d).line = min (now.line + d.nanos) latest.line := by
  have moved : now.shifted d.nanos = ofNanos (now.line + d.nanos) := shifted_of_not_isLeap regular d.nanos
  have secs := secs_ofNanos (now.line + d.nanos)
  have line := line_ofNanos (now.line + d.nanos)
  have last := line_latest
  unfold after
  rw [moved]
  split
  · refine ⟨by decide, ?_⟩
    omega
  · refine ⟨not_isLeap_ofNanos _, ?_⟩
    omega

/-- At least as much has passed as lies between two instants on the line. -/
theorem line_sub_le_nanosSince (regular : now.isLeap = false) (issued : Instant) :
    now.line - issued.line ≤ now.nanosSince issued := by
  have leaps : 0 ≤ now.leapsSince issued := by
    simp only [leapsSince, regular, Bool.and_false, Bool.false_eq_true, if_false]
    split <;> decide
  simp only [nanosSince, line]
  omega

/-- Between two instants of the calendar there are no more milliseconds than 63 bits can count. -/
theorem nanosSince_fits (onCalendar : now.OnCalendar) (onCalendar' : issued.OnCalendar) :
    (now.nanosSince issued).natAbs ≤ (UInt64.size / 2 - 1) * 1_000_000 := by
  have leaps : -1 ≤ now.leapsSince issued ∧ now.leapsSince issued ≤ 1 := by
    unfold leapsSince
    split
    · decide
    · split <;> decide
  have below := now.nanos_lt
  have below' := issued.nanos_lt
  obtain ⟨first, last⟩ := onCalendar
  obtain ⟨first', last'⟩ := onCalendar'
  rw [secs_earliest] at first first'
  rw [secs_latest] at last last'
  have size : UInt64.size = 18446744073709551616 := rfl
  simp only [nanosSince]
  omega

/-- On the calendar no span is too long. -/
theorem nanos_since (onCalendar : now.OnCalendar) (onCalendar' : issued.OnCalendar) :
    (now.since issued).nanos = (now.nanosSince issued).toNat := by
  have fits := nanosSince_fits onCalendar onCalendar'
  have small : (now.nanosSince issued).toNat < UInt64.size * 1_000_000_000 := by
    have size : UInt64.size = 18446744073709551616 := rfl
    omega
  simp [since, Span.ofNanos, small]

theorem onCalendar_after (onClock : now.OnClock) (d : Span) : (now.after d).OnCalendar := by
  obtain ⟨-, line⟩ := line_after onClock.regular d
  obtain ⟨regular, -⟩ := line_after onClock.regular d
  have below := nanos_of_regular regular
  have onCalendar := onClock.onCalendar.1
  have ordered : earliest.secs ≤ latest.secs := by decide
  have last := line_latest
  refine ⟨?_, secs_after_le now d⟩
  simp only [Instant.line] at line last
  omega

end Instant

/-! ## Terms -/

namespace TermRequest

variable (limits : LeaseLimits) (r : TermRequest)

theorem nanos_remaining :
    (r.remaining limits).nanos = (r.maximum limits).nanos - (r.now.nanosSince r.issued).toNat := by
  have below := (r.maximum limits).nanos_lt
  show (r.maximum limits).nanos - (Span.ofNanos _).nanos = _
  unfold Span.ofNanos
  split
  · rfl
  · have longest : Span.longest.nanos = UInt64.size * 1_000_000_000 - 1 := rfl
    omega

theorem nanos_grant : (r.grant limits).value.nanos = min (r.wanted limits).nanos (r.remaining limits).nanos := by
  unfold grant
  by_cases past : (r.remaining limits).isZero
  · rw [if_pos past, Span.isZero_iff.1 past]
    exact (Nat.min_zero _).symm
  · rw [if_neg past]
    by_cases capped : r.remaining limits < r.wanted limits
    · rw [if_pos capped]
      exact (Nat.min_eq_right (Nat.le_of_lt capped)).symm
    · rw [if_neg capped]
      exact (Nat.min_eq_left (Nat.le_of_not_lt capped)).symm

/-- There is a warning just where nothing is left, or less than wanted. -/
theorem warnings_grant : (r.grant limits).warnings ≠ [] ↔
    (r.remaining limits).nanos = 0 ∨ (r.remaining limits).nanos < (r.wanted limits).nanos := by
  unfold grant
  by_cases past : (r.remaining limits).isZero
  · rw [if_pos past, Span.isZero_iff.1 past]
    exact ⟨fun _ => .inl rfl, fun _ => List.cons_ne_nil _ _⟩
  · have left : (r.remaining limits).nanos ≠ 0 := by simpa [Span.isZero] using past
    rw [if_neg past]
    by_cases capped : r.remaining limits < r.wanted limits
    · rw [if_pos capped]
      exact ⟨fun _ => .inr capped, fun _ => List.cons_ne_nil _ _⟩
    · rw [if_neg capped]
      exact ⟨fun warned => absurd rfl warned, fun short => short.elim (absurd · left) (absurd · capped)⟩

end TermRequest

namespace RoleRecord

/-- The nanoseconds asked for: by the caller, else by the role, else by the system. -/
def asked (limits : LeaseLimits) (role : RoleRecord) (increment : Span) : Nat :=
  if increment.nanos ≠ 0 then increment.nanos
  else if role.defaultTtl ≠ 0 then role.defaultTtl.toNat * 1_000_000_000
  else limits.defaultTtl.nanos

/-- The nanoseconds that a lease can last: those of the system, or of the role if it has a lower maximum. -/
def ceiling (limits : LeaseLimits) (role : RoleRecord) : Nat :=
  if role.maxTtl = 0 then limits.maxTtl.nanos else min limits.maxTtl.nanos (role.maxTtl.toNat * 1_000_000_000)

/-- What a renewal requests. -/
def renewalTerm (role : RoleRecord) (increment : Span) (issued now : Instant) : TermRequest where
  increment := increment
  roleTtl := role.defaultSpan
  roleMaxTtl := role.maxSpan
  issued := issued
  now := now

variable {limits : LeaseLimits} {role : RoleRecord} {increment margin : Span} {issued now : Instant}

theorem isZero_ofSecs {seconds : UInt64} : (Span.ofSecs seconds).isZero = true ↔ seconds = 0 := by
  have nanos : (Span.ofSecs seconds).nanos = seconds.toNat * 1_000_000_000 := rfl
  rw [Span.isZero, beq_iff_eq, nanos, ← UInt64.toNat_inj, UInt64.toNat_zero]
  omega

theorem nanos_wanted : ((role.renewalTerm increment issued now).wanted limits).nanos = role.asked limits increment := by
  show (if !increment.isZero then increment else if !(Span.ofSecs role.defaultTtl).isZero then Span.ofSecs role.defaultTtl
    else limits.defaultTtl).nanos = _
  unfold asked
  by_cases given : increment.nanos = 0
  · have unset : increment.isZero = true := beq_iff_eq.2 given
    by_cases own : role.defaultTtl = 0
    · simp [given, unset, own, isZero_ofSecs.2]
    · have set : (Span.ofSecs role.defaultTtl).isZero = false := Bool.eq_false_iff.2 (own ∘ isZero_ofSecs.1)
      rw [unset, set, if_neg (not_not_intro given), if_pos own]
      rfl
  · have set : increment.isZero = false := beq_eq_false_iff_ne.2 given
    simp [given, set]

theorem nanos_maximum : ((role.renewalTerm increment issued now).maximum limits).nanos = role.ceiling limits := by
  show (if !(Span.ofSecs role.maxTtl).isZero && decide (Span.ofSecs role.maxTtl < limits.maxTtl) then
    Span.ofSecs role.maxTtl else limits.maxTtl).nanos = _
  unfold ceiling
  by_cases own : role.maxTtl = 0
  · simp [own, isZero_ofSecs.2]
  · have set : (Span.ofSecs role.maxTtl).isZero = false := Bool.eq_false_iff.2 (own ∘ isZero_ofSecs.1)
    rw [if_neg own, set]
    by_cases lower : Span.ofSecs role.maxTtl < limits.maxTtl
    · rw [if_pos (by simpa using lower)]
      exact (Nat.min_eq_right (Nat.le_of_lt lower)).symm
    · rw [if_neg (by simpa using lower)]
      exact (Nat.min_eq_left (Nat.le_of_not_lt lower)).symm

/-- The nanoseconds that are left of the maximum. An issue in the future counts as now. -/
def left (limits : LeaseLimits) (role : RoleRecord) (issued now : Instant) : Nat :=
  role.ceiling limits - (now.nanosSince issued).toNat

theorem nanos_left : ((role.renewalTerm increment issued now).remaining limits).nanos = role.left limits issued now := by
  rw [TermRequest.nanos_remaining, nanos_maximum]
  rfl

/-- A renewal grants what is asked for, cut to what is left. -/
theorem nanos_renewalTerm : ((role.renewalTerm increment issued now).grant limits).value.nanos =
    min (role.asked limits increment) (role.left limits issued now) := by
  rw [TermRequest.nanos_grant, nanos_wanted, nanos_left]

theorem warnings_renewalTerm : ((role.renewalTerm increment issued now).grant limits).warnings ≠ [] ↔
    role.left limits issued now = 0 ∨ role.left limits issued now < role.asked limits increment := by
  rw [TermRequest.warnings_grant, nanos_wanted, nanos_left]

/-! ## Expiries -/

/-- An expiry with a margin is not cut short by the longest span, only by the last instant. -/
theorem line_after_add (onClock : now.OnClock) (ttl margin : Span) :
    (now.after (ttl.add margin)).line = min (now.line + ttl.nanos + margin.nanos) Instant.latest.line := by
  obtain ⟨-, line⟩ := Instant.line_after onClock.regular (ttl.add margin)
  have last := Instant.line_latest
  have latest := Instant.secs_latest
  have first := Instant.secs_earliest ▸ onClock.onCalendar.1
  have start : now.line = now.secs * 1_000_000_000 + now.nanos := rfl
  have size : UInt64.size = 18446744073709551616 := rfl
  rw [line]
  show min (now.line + ((Span.ofNanos _).nanos : Nat)) _ = _
  unfold Span.ofNanos
  split
  · dsimp only
    omega
  · have longest : Span.longest.nanos = UInt64.size * 1_000_000_000 - 1 := rfl
    omega

/-- While something is left, the expiry lies within the maximum and the margin from the issue. -/
theorem line_validUntil_le (onClock : now.OnClock) {ttl : Span} (some : ttl.nanos ≠ 0)
    (within : ttl.nanos ≤ role.left limits issued now) (margin : Span) :
    (now.after (ttl.add margin)).line ≤ issued.line + role.ceiling limits + margin.nanos := by
  have passed := Instant.line_sub_le_nanosSince onClock.regular issued
  rw [line_after_add onClock]
  unfold left at within
  omega

/-! ## New leases -/

theorem left_self (limits : LeaseLimits) (role : RoleRecord) (now : Instant) :
    role.left limits now now = role.ceiling limits := by
  have none : now.nanosSince now = 0 := by simp [Instant.nanosSince, Instant.leapsSince]
  rw [left, none]
  rfl

theorem asked_zero (limits : LeaseLimits) (role : RoleRecord) : role.asked limits .zero =
    if role.defaultTtl ≠ 0 then role.defaultTtl.toNat * 1_000_000_000 else limits.defaultTtl.nanos :=
  if_neg (not_not_intro rfl)

/-- A new lease lasts as long as its role says, else as the system does, and no longer than the system lets it. The
    maximum of the role has no part in it. -/
theorem nanos_issueTerm : ((Credentials.issueTerm role now).grant limits).value.nanos =
    min (role.asked limits .zero) limits.maxTtl.nanos := by
  let bounded : RoleRecord := { role with maxTtl := role.defaultTtl }
  have same : Credentials.issueTerm role now = bounded.renewalTerm .zero now now := rfl
  rw [same, nanos_renewalTerm, left_self]
  by_cases own : role.defaultTtl = 0
  · have ceiling : bounded.ceiling limits = limits.maxTtl.nanos := if_pos own
    rw [ceiling]
    rfl
  · have ceiling : bounded.ceiling limits = min limits.maxTtl.nanos (role.defaultTtl.toNat * 1_000_000_000) := if_neg own
    have same : bounded.asked limits .zero = role.asked limits .zero := rfl
    rw [ceiling, same, asked_zero, if_pos own]
    omega

/-- Whether a new lease need not be cut to the maximum of its role: the role gives a term of its own, which its maximum
    bounds, or no maximum at all, or one that is not below what the system grants. -/
def BoundsIssue (limits : LeaseLimits) (role : RoleRecord) : Prop :=
  role.defaultTtl ≠ 0 ∨ role.maxTtl = 0 ∨
    min limits.defaultTtl.nanos limits.maxTtl.nanos ≤ role.maxTtl.toNat * 1_000_000_000

section
variable (bounded : role.maxTtl = 0 ∨ role.defaultTtl ≤ role.maxTtl)
include bounded

/-- A new lease lasts as long as its role lets it just where it need not be cut. -/
theorem nanos_issueTerm_le_iff :
    ((Credentials.issueTerm role now).grant limits).value.nanos ≤ role.ceiling limits ↔ role.BoundsIssue limits := by
  rw [nanos_issueTerm, asked_zero, ceiling, BoundsIssue]
  by_cases unset : role.maxTtl = 0
  · rw [if_pos unset]
    exact ⟨fun _ => .inr (.inl unset), fun _ => Nat.min_le_right ..⟩
  · have below : role.defaultTtl.toNat ≤ role.maxTtl.toNat := UInt64.le_iff_toNat_le.1 (bounded.resolve_left unset)
    by_cases own : role.defaultTtl = 0
    · simp only [own, unset, ne_eq, not_true_eq_false, if_false, false_or]
      omega
    · simp only [own, unset, ne_eq, not_false_eq_true, if_true, if_false, true_or, iff_true]
      omega

/-- In the same instant a renewal would make the lease last as long, just where it need not be cut. -/
theorem issueTerm_eq_renewalTerm_iff :
    ((Credentials.issueTerm role now).grant limits).value = ((role.renewalTerm .zero now now).grant limits).value ↔
      role.BoundsIssue limits := by
  rw [← @nanos_issueTerm_le_iff limits role now bounded, Span.ext_iff, nanos_renewalTerm, left_self, nanos_issueTerm]
  have lower : role.ceiling limits ≤ limits.maxTtl.nanos := by
    unfold ceiling
    split
    · exact Nat.le_refl _
    · exact Nat.min_le_left ..
  omega

end

end RoleRecord

end LeaseBroker
