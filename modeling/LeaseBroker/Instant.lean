import LeaseBroker.Span

/-!
# Instants and their text

An instant is a second of UTC, counted from the start of 1970 on the proleptic
Gregorian calendar, and the nanoseconds since it began. A leap second may follow
the last second of a minute. It has no count of its own: it goes on with the
nanoseconds of the second before it, and adds to a span only where one of the
two ends lies in it. The last instant is the end of the year 262142; moving past
it stops there.
-/

namespace LeaseBroker

@[ext] structure Instant where
  /-- The seconds since the start of 1970. -/
  secs : Int
  /-- The nanoseconds since this second began, from 10⁹ on in a leap second. -/
  nanos : Nat
  nanos_lt : nanos < 2_000_000_000
  secs_of_leap : 1_000_000_000 ≤ nanos → secs % 60 = 59
  deriving DecidableEq, Repr

namespace Instant

instance : LE Instant := ⟨fun a b => a.secs < b.secs ∨ a.secs = b.secs ∧ a.nanos ≤ b.nanos⟩

instance (a b : Instant) : Decidable (a ≤ b) :=
  inferInstanceAs (Decidable (a.secs < b.secs ∨ a.secs = b.secs ∧ a.nanos ≤ b.nanos))

/-- The instant of these parts; none when a leap second is out of place. -/
def ofParts? (secs : Int) (nanos : Nat) : Option Instant :=
  if h : nanos < 2_000_000_000 ∧ (1_000_000_000 ≤ nanos → secs % 60 = 59) then some ⟨secs, nanos, h.1, h.2⟩ else none

def ofSecs (s : Int) : Instant := ⟨s, 0, by decide, by omega⟩

/-- The instant `n` nanoseconds from the start of 1970, outside of leap seconds. -/
def ofNanos (n : Int) : Instant :=
  ⟨n / 1_000_000_000, (n % 1_000_000_000).toNat, by omega, by omega⟩

def isLeap (t : Instant) : Bool := 1_000_000_000 ≤ t.nanos

/-- The second of the day; a leap second shares that of the second before it. -/
def secondOfDay (t : Instant) : Int := t.secs % 86400

/-! ## Calendar -/

/-- A date of the proleptic Gregorian calendar. -/
structure Date where
  year : Int
  month : Nat
  day : Nat
  deriving DecidableEq, Repr

/-- Days from the first of March of the year 0 to the first day of 1970. -/
def epochOffset : Int := 719468

/-- The date `days` days after the first day of 1970. Years are counted from March, in eras of 400. -/
def dateOfDays (days : Int) : Date :=
  let z := days + epochOffset
  let era := z.fdiv 146097
  let dayOfEra := (z.fmod 146097).toNat
  let yearOfEra := (dayOfEra - dayOfEra / 1460 + dayOfEra / 36524 - dayOfEra / 146096) / 365
  let dayOfYear := dayOfEra - (365 * yearOfEra + yearOfEra / 4 - yearOfEra / 100)
  let monthFromMarch := (5 * dayOfYear + 2) / 153
  let day := dayOfYear - (153 * monthFromMarch + 2) / 5 + 1
  let month := if monthFromMarch < 10 then monthFromMarch + 3 else monthFromMarch - 9
  let year := (yearOfEra : Int) + era * 400 + (if month ≤ 2 then 1 else 0)
  ⟨year, month, day⟩

/-- The days from the first day of 1970 to a date. -/
def daysOfDate (d : Date) : Int :=
  let year := if d.month ≤ 2 then d.year - 1 else d.year
  let era := year.fdiv 400
  let yearOfEra := (year.fmod 400).toNat
  let monthFromMarch := if 2 < d.month then d.month - 3 else d.month + 9
  let dayOfYear := (153 * monthFromMarch + 2) / 5 + d.day - 1
  let dayOfEra := 365 * yearOfEra + yearOfEra / 4 - yearOfEra / 100 + dayOfYear
  era * 146097 + dayOfEra - epochOffset

/-- The last nanosecond of the year 262142. -/
def latest : Instant := ⟨(daysOfDate ⟨262142, 12, 31⟩ + 1) * 86400 - 1, 999_999_999, by decide, by decide⟩

/-! ## Moving -/

/-- Whether an instant in a leap second is still in the same second after `n` nanoseconds. -/
def staysInLeap (t : Instant) (n : Int) : Bool :=
  t.isLeap && -1_000_000_000 < n && t.nanos + n < 2_000_000_000

/-- The instant `n` nanoseconds after `t`, with no leap seconds on the way. One that is left counts as the
second before it on the way forward, and as the one after it on the way back. -/
def shifted (t : Instant) (n : Int) : Instant :=
  if h : t.staysInLeap n = true then
    ⟨t.secs, (t.nanos + n).toNat,
      by simp only [staysInLeap, isLeap, Bool.and_eq_true, decide_eq_true_eq] at h; omega,
      fun _ => t.secs_of_leap (by simp only [staysInLeap, isLeap, Bool.and_eq_true, decide_eq_true_eq] at h; omega)⟩
  else
    let base := if t.isLeap && n < 0 then t.secs + 1 else t.secs
    ofNanos (base * 1_000_000_000 + (t.nanos % 1_000_000_000 : Nat) + n)

/-- The instant `d` after `t`, or the last one. -/
def after (t : Instant) (d : Span) : Instant :=
  if latest.secs < (t.shifted d.nanos).secs then latest else t.shifted d.nanos

/-- The leap seconds between `start` and `t`: the one in which the earlier of the two times of day lies, if any.
No other is known of. -/
def leapsSince (t start : Instant) : Int :=
  if start.secondOfDay < t.secondOfDay && start.isLeap then 1
  else if t.secondOfDay < start.secondOfDay && t.isLeap then -1
  else 0

/-- The nanoseconds from `start` to `t`, below zero when `start` lies in the future. -/
def nanosSince (t start : Instant) : Int :=
  (t.secs - start.secs + t.leapsSince start) * 1_000_000_000 + (t.nanos - start.nanos)

/-- The span from `start` to `t`; zero when `start` lies in the future. -/
def since (t start : Instant) : Span := Span.ofNanos (t.nanosSince start).toNat

/-! ## Text -/

/-- Years from 0 to 9999 have four digits; others have a sign as well. -/
def yearText (y : Int) : List Char :=
  if 0 ≤ y && y ≤ 9999 then Integers.padded 4 y.toNat
  else (if y < 0 then '-' else '+') :: Integers.padded 4 y.natAbs

/-- Date, time to the second and offset, such as `2030-01-02 03:04:05+0000`. A leap second is the sixtieth. -/
def text (t : Instant) : String :=
  let date := dateOfDays (t.secs / 86400)
  let second := t.secondOfDay.toNat
  String.ofList (yearText date.year ++ '-' :: Integers.padded 2 date.month ++ '-' :: Integers.padded 2 date.day ++
    ' ' :: Integers.padded 2 (second / 3600) ++ ':' :: Integers.padded 2 (second / 60 % 60) ++
    ':' :: Integers.padded 2 (second % 60 + t.nanos / 1_000_000_000) ++ ['+', '0', '0', '0', '0'])

theorem secs_ofNanos (n : Int) : (ofNanos n).secs = n / 1_000_000_000 := rfl

theorem not_isLeap_ofNanos (n : Int) : (ofNanos n).isLeap = false := by
  exact decide_eq_false (by simp only [ofNanos]; omega)

/-- Outside of leap seconds an instant is as far from the start of 1970 as its parts say. -/
theorem shifted_of_not_isLeap {t : Instant} (h : t.isLeap = false) (n : Int) :
    t.shifted n = ofNanos (t.secs * 1_000_000_000 + t.nanos + n) := by
  have small : t.nanos % 1_000_000_000 = t.nanos := by
    simp only [isLeap, decide_eq_false_iff_not] at h
    omega
  simp [shifted, staysInLeap, h, small]

/-- Outside of leap seconds a span is the difference of the distances from the start of 1970. -/
theorem nanosSince_of_not_isLeap {t start : Instant} (ht : t.isLeap = false) (hs : start.isLeap = false) :
    t.nanosSince start =
      (t.secs * 1_000_000_000 + t.nanos) - (start.secs * 1_000_000_000 + start.nanos) := by
  simp only [nanosSince, leapsSince, ht, hs, Bool.and_false, Bool.false_eq_true, if_false]
  omega

theorem secs_after_le (t : Instant) (d : Span) : (t.after d).secs ≤ latest.secs := by
  unfold after
  split
  · exact Int.le_refl _
  · omega

end Instant

end LeaseBroker
