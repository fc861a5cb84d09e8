import LeaseBroker.Integers

/-!
# Spans of time

A span is a whole number of nanoseconds, less than 2⁶⁴ seconds. Sums stop at
the longest span and differences at zero.
-/

namespace LeaseBroker

/-- A span of time below 2⁶⁴ seconds. -/
@[ext] structure Span where
  nanos : Nat
  nanos_lt : nanos < UInt64.size * 1_000_000_000
  deriving DecidableEq, Repr

namespace Span

def zero : Span := ⟨0, by decide⟩

/-- The longest span. -/
def longest : Span := ⟨UInt64.size * 1_000_000_000 - 1, by decide⟩

instance : Inhabited Span := ⟨zero⟩

/-- The span of `n` nanoseconds, or the longest one. -/
def ofNanos (n : Nat) : Span := if h : n < UInt64.size * 1_000_000_000 then ⟨n, h⟩ else longest

def ofSecs (s : UInt64) : Span := ⟨s.toNat * 1_000_000_000, by have := s.toNat_lt_size; omega⟩

/-- The whole seconds. -/
def secs (d : Span) : UInt64 := .ofNat (d.nanos / 1_000_000_000)

/-- The nanoseconds beyond the whole seconds. -/
def subsecNanos (d : Span) : Nat := d.nanos % 1_000_000_000

def isZero (d : Span) : Bool := d.nanos == 0

def add (a b : Span) : Span := ofNanos (a.nanos + b.nanos)

def sub (a b : Span) : Span := ⟨a.nanos - b.nanos, by have := a.nanos_lt; omega⟩

instance : LE Span := ⟨fun a b => a.nanos ≤ b.nanos⟩

instance : LT Span := ⟨fun a b => a.nanos < b.nanos⟩

instance (a b : Span) : Decidable (a ≤ b) := inferInstanceAs (Decidable (a.nanos ≤ b.nanos))

instance (a b : Span) : Decidable (a < b) := inferInstanceAs (Decidable (a.nanos < b.nanos))

theorem toNat_secs (d : Span) : d.secs.toNat = d.nanos / 1_000_000_000 := by
  have := d.nanos_lt
  have : UInt64.size = 18446744073709551616 := rfl
  simp only [secs, UInt64.toNat_ofNat']
  omega

@[simp] theorem secs_ofSecs (s : UInt64) : (ofSecs s).secs = s := by
  apply UInt64.toNat_inj.1
  rw [toNat_secs]
  exact Nat.mul_div_cancel _ (by decide)

theorem isZero_iff {d : Span} : d.isZero = true ↔ d = zero := by
  simp [isZero, Span.ext_iff, zero]

/-! ## Text

A span is written in the largest unit of which it holds at least one, with the
digits of the rest behind a point. -/

/-- The digits of `n` as a fraction of `width` places, without zeros at the end. -/
def fractionDigits (width n : Nat) : List Char :=
  ((Integers.padded width n).reverse.dropWhile (· == '0')).reverse

def inUnit (whole rest width : Nat) (unit : String) : String :=
  let fraction := if rest = 0 then "" else "." ++ String.ofList (fractionDigits width rest)
  String.ofList (Integers.digits whole) ++ fraction ++ unit

def text (d : Span) : String :=
  let n := d.nanos
  if 1_000_000_000 ≤ n then inUnit (n / 1_000_000_000) (n % 1_000_000_000) 9 "s"
  else if 1_000_000 ≤ n then inUnit (n / 1_000_000) (n % 1_000_000) 6 "ms"
  else if 1_000 ≤ n then inUnit (n / 1_000) (n % 1_000) 3 "µs"
  else inUnit n 0 0 "ns"

end Span

end LeaseBroker
