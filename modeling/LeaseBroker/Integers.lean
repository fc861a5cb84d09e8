/-!
# Reading and writing integers

A decimal integer is a run of ASCII digits, after a plus sign or, where
negative values exist, a minus sign. Reading goes from left to right and stops
at the first fault: a character that is no digit, or a value that has left the
range of the type.
-/

namespace LeaseBroker

/-- Why a text is not an integer of the wanted type. -/
inductive IntegerError where
  | empty
  | invalidDigit
  | tooLarge
  | tooSmall
  deriving DecidableEq, Repr

namespace IntegerError

def message : IntegerError → String
  | empty => "cannot parse integer from empty string"
  | invalidDigit => "invalid digit found in string"
  | tooLarge => "number too large to fit in target type"
  | tooSmall => "number too small to fit in target type"

end IntegerError

namespace Integers

def digitValue (c : Char) : Nat := c.toNat - '0'.toNat

/-- The value of a run of digits read after `n`. -/
def valueFrom (n : Nat) (cs : List Char) : Nat := cs.foldl (fun n c => 10 * n + digitValue c) n

def value (cs : List Char) : Nat := valueFrom 0 cs

/-- Reads on from `n` up to `limit`; `beyond` is the fault of a larger value. -/
def scan (limit : Nat) (beyond : IntegerError) : Nat → List Char → Except IntegerError Nat
  | n, [] => .ok n
  | n, c :: cs =>
    if !c.isDigit then .error .invalidDigit
    else if 10 * n + digitValue c ≤ limit then scan limit beyond (10 * n + digitValue c) cs
    else .error beyond

/-- Digits after the sign, of which there must be one. -/
def afterSign (limit : Nat) (beyond : IntegerError) (cs : List Char) : Except IntegerError Nat :=
  if cs.isEmpty then .error .invalidDigit else scan limit beyond 0 cs

/-- Reads an integer from 0 to `limit`. -/
def unsigned (limit : Nat) (s : String) : Except IntegerError Nat :=
  match s.toList with
  | [] => .error .empty
  | '+' :: cs => afterSign limit .tooLarge cs
  | cs => scan limit .tooLarge 0 cs

/-- Reads an integer from `-(limit + 1)` to `limit`. -/
def signed (limit : Nat) (s : String) : Except IntegerError Int :=
  match s.toList with
  | [] => .error .empty
  | '+' :: cs => (afterSign limit .tooLarge cs).map Int.ofNat
  | '-' :: cs => (afterSign (limit + 1) .tooSmall cs).map fun n => -(n : Int)
  | cs => (scan limit .tooLarge 0 cs).map Int.ofNat

/-- The decimal digits of `n`, with no zero in front of others. -/
def digits (n : Nat) : List Char := Nat.toDigits 10 n

/-- The decimal digits of `n`, at least `width` of them. -/
def padded (width n : Nat) : List Char := List.replicate (width - (digits n).length) '0' ++ digits n

/-- Digits behind a minus sign where the number is negative. -/
def chars : Int → List Char
  | .ofNat n => digits n
  | .negSucc n => '-' :: digits (n + 1)

theorem le_valueFrom (n : Nat) (cs : List Char) : n ≤ valueFrom n cs := by
  induction cs generalizing n with
  | nil => exact Nat.le_refl n
  | cons c cs ih =>
    have := ih (10 * n + digitValue c)
    simp only [valueFrom, List.foldl_cons] at this ⊢
    omega

theorem value_concat (cs : List Char) (c : Char) : value (cs ++ [c]) = 10 * value cs + digitValue c := by
  simp [value, valueFrom]

/-- The digits of a number have its value. -/
@[simp] theorem value_digits (n : Nat) : value (digits n) = n := by
  induction n using Nat.strongRecOn with
  | ind n ih =>
    have digit {d : Nat} (h : d < 10) : digitValue (Nat.digitChar d) = d := by
      simp [digitValue, Nat.toNat_digitChar_of_lt_ten h]
    by_cases h : n < 10
    · simp [digits, Nat.toDigits_of_lt_base h, value, valueFrom, digit h]
    · have := ih (n / 10) (by omega)
      unfold digits at this ⊢
      rw [Nat.toDigits_of_base_le (by decide) (by omega), value_concat, this, digit (by omega)]
      omega

theorem isDigit_of_mem_digits {n : Nat} {c : Char} (h : c ∈ digits n) : c.isDigit = true :=
  Nat.isDigit_of_mem_toDigits (by decide) (by decide) h

theorem digits_ne_nil (n : Nat) : digits n ≠ [] := List.ne_nil_of_length_pos Nat.length_toDigits_pos

/-- Reading succeeds on digits whose value is within the limit, and gives that value. -/
theorem scan_eq_ok_iff {limit n m : Nat} {beyond : IntegerError} {cs : List Char} (h : n ≤ limit) :
    scan limit beyond n cs = .ok m ↔ cs.all Char.isDigit = true ∧ valueFrom n cs = m ∧ m ≤ limit := by
  induction cs generalizing n with
  | nil => simp [scan, valueFrom]; omega
  | cons c cs ih =>
    rw [scan]
    by_cases hd : c.isDigit = true
    · by_cases hl : 10 * n + digitValue c ≤ limit
      · simp [hd, hl, ih hl, valueFrom]
      · have := le_valueFrom (10 * n + digitValue c) cs
        simp only [hd, hl, Bool.not_true, Bool.false_eq_true, if_false, List.all_cons, Bool.true_and, valueFrom,
          List.foldl_cons, reduceCtorEq, false_iff, not_and]
        intro _ h1 h2
        simp only [valueFrom] at this
        omega
    · simp [hd]

end Integers

end LeaseBroker
