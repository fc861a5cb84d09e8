import LeaseBroker.Integers

/-!
# Double-precision numbers

A finite double is `± mantissa · 2^exponent`. Rounding a ratio takes the nearest
double, the even one of two equally near. A literal is read by rounding its
leading digits and scaling the result by a rounded power of ten. A double is
written with the fewest digits that round back to it, the nearest such digits,
positionally from 10⁻⁵ to 10¹⁶ and with a signed exponent beyond.
-/

namespace LeaseBroker

/-- A finite double `± mantissa · 2^exponent`, with `mantissa < 2^53` and `-1074 ≤ exponent`. -/
structure Double where
  negative : Bool
  mantissa : Nat
  exponent : Int
  deriving DecidableEq, Repr

namespace Double

/-! ## Rounding -/

def tenTo (n : Nat) : Nat := Nat.pow 10 n

/-- The greatest `e` with `base^e * den ≤ num`, for positive arguments and a first guess at most one too high. -/
def magnitudeFrom (base : Nat) (guess : Int) (num den : Nat) : Int :=
  let fits := if 0 ≤ guess then decide (Nat.pow base guess.toNat * den ≤ num)
    else decide (den ≤ num * Nat.pow base (-guess).toNat)
  if fits then guess else guess - 1

def binaryMagnitude (num den : Nat) : Int := magnitudeFrom 2 ((num.log2 : Int) - den.log2) num den

def decimalMagnitude (num den : Nat) : Int :=
  magnitudeFrom 10 (((Nat.toDigits 10 num).length : Int) - (Nat.toDigits 10 den).length) num den

/-- The quotient to the nearest whole number, a half going to the even one. -/
def roundQuotient (num den : Nat) : Nat :=
  let q := num / den
  let r := num % den
  if den < 2 * r || (2 * r == den && q % 2 == 1) then q + 1 else q

/-- `num / den · 2^shift` to the nearest whole number. -/
def roundShifted (num den : Nat) (shift : Int) : Nat :=
  if 0 ≤ shift then roundQuotient (num <<< shift.toNat) den else roundQuotient num (den <<< (-shift).toNat)

/-- The least mantissa with all of its 53 bits. -/
def leastNormal : Nat := 1 <<< 52

/-- The double nearest to `± num / den`; none when that is beyond the finite ones. -/
def nearest (negative : Bool) (num den : Nat) : Option Double :=
  if num = 0 then some ⟨negative, 0, -1074⟩
  else
    let exponent := max (binaryMagnitude num den - 52) (-1074)
    let mantissa := roundShifted num den (-exponent)
    let d : Double :=
      if mantissa = 2 * leastNormal then ⟨negative, leastNormal, exponent + 1⟩ else ⟨negative, mantissa, exponent⟩
    if d.exponent ≤ 971 then some d else none

/-- The absolute value as a ratio. -/
def ratio (d : Double) : Nat × Nat :=
  if 0 ≤ d.exponent then (d.mantissa <<< d.exponent.toNat, 1) else (d.mantissa, 1 <<< (-d.exponent).toNat)

def mul (a b : Double) : Option Double :=
  nearest (a.negative != b.negative) (a.ratio.1 * b.ratio.1) (a.ratio.2 * b.ratio.2)

def div (a b : Double) : Option Double :=
  nearest (a.negative != b.negative) (a.ratio.1 * b.ratio.2) (a.ratio.2 * b.ratio.1)

/-! ## Reading a literal -/

/-- The largest significand that is kept exactly. -/
def significandLimit : Nat := UInt64.size - 1

/-- Takes whole digits while they fit; each further one counts as a power of ten. -/
def takeWhole : Nat → List Char → Nat × Int
  | s, [] => (s, 0)
  | s, c :: cs =>
    if 10 * s + Integers.digitValue c ≤ significandLimit then takeWhole (10 * s + Integers.digitValue c) cs
    else (s, (c :: cs).length)

/-- Takes digits after the point while they fit and drops the rest. -/
def takeFraction : Nat → Int → List Char → Nat × Int
  | s, k, [] => (s, k)
  | s, k, c :: cs =>
    if 10 * s + Integers.digitValue c ≤ significandLimit then
      takeFraction (10 * s + Integers.digitValue c) (k - 1) cs
    else (s, k)

/-- Divides by 10³⁰⁸ until the exponent is within reach; `rounds` bounds the divisions. -/
def scaleDown : Nat → Double → Int → Option Double
  | 0, d, _ => some ⟨d.negative, 0, -1074⟩
  | rounds + 1, d, e =>
    if -308 ≤ e then do d.div (← nearest false (tenTo (-e).toNat) 1)
    else if d.mantissa = 0 then some d
    else do scaleDown rounds (← d.div (← nearest false (tenTo 308) 1)) (e + 308)

/-- `± s · 10^e`, with one rounding of `s` and one for the scaling. -/
def scaled (negative : Bool) (s : Nat) (e : Int) : Option Double := do
  let d ← nearest negative s 1
  if 0 ≤ e then
    if e ≤ 308 then d.mul (← nearest false (tenTo e.toNat) 1)
    else if d.mantissa = 0 then some d else none
  else scaleDown 4 d e

/-- The double that a literal of these parts stands for. -/
def ofLiteral (negative : Bool) (whole fraction : List Char) (exponent : Int) : Option Double :=
  let (s, k) := takeWhole 0 whole
  let (s, k) := takeFraction s k fraction
  scaled negative s (exponent + k)

/-! ## Writing -/

/-- Whether `c · 10^k` rounds to `d`. -/
def roundsTo (d : Double) (c : Nat) (k : Int) : Bool :=
  let below := if d.mantissa = leastNormal && -1074 < d.exponent then 1 else 2
  let (p, q) : Nat × Nat := if 0 ≤ k then (c * tenTo k.toNat, 1) else (c, tenTo (-k).toNat)
  let unit : Nat × Nat :=
    if 0 ≤ d.exponent - 2 then (1 <<< (d.exponent - 2).toNat, 1) else (1, 1 <<< (2 - d.exponent).toNat)
  let x := p * unit.2
  let low := (4 * d.mantissa - below) * unit.1 * q
  let high := (4 * d.mantissa + 2) * unit.1 * q
  if d.mantissa % 2 = 0 then low ≤ x && x ≤ high else low < x && x < high

/-- The nearer of the two `k`-th decimal neighbours that round to `d`, the even one of a tie. -/
def neighbour? (d : Double) (k : Int) : Option Nat :=
  let (num, den) := d.ratio
  let (n, m) : Nat × Nat := if 0 ≤ k then (num, den * tenTo k.toNat) else (num * tenTo (-k).toNat, den)
  let c := n / m
  match d.roundsTo c k, d.roundsTo (c + 1) k with
  | true, true => some (roundQuotient n m)
  | true, false => some c
  | false, true => some (c + 1)
  | false, false => none

/-- Tries `count` digits, then one more, as long as `more` lasts. -/
def shortestFrom (d : Double) (magnitude : Int) : Nat → Nat → Nat × Int
  | 0, count =>
    let k := magnitude + 1 - count
    ((d.neighbour? k).getD 0, k)
  | more + 1, count =>
    let k := magnitude + 1 - count
    match d.neighbour? k with
    | some c => (c, k)
    | none => shortestFrom d magnitude more (count + 1)

/-- Drops the zeros at the end of `c`, of which there are at most `n`. -/
def withoutZeros : Nat → Nat → Int → Nat × Int
  | 0, c, k => (c, k)
  | n + 1, c, k => if c % 10 = 0 then withoutZeros n (c / 10) (k + 1) else (c, k)

/-- The fewest digits `c` and the power `k` with `c · 10^k` rounding to a positive `d`. -/
def shortest (d : Double) : Nat × Int :=
  let (c, k) := shortestFrom d (decimalMagnitude d.ratio.1 d.ratio.2) 17 1
  withoutZeros 20 c k

/-- Digits `ds` at the power `k`, with a point inside, in front or behind, or with an exponent. -/
def layout (ds : List Char) (k : Int) : List Char :=
  let point : Int := ds.length + k
  if 0 ≤ k && point ≤ 16 then ds ++ List.replicate k.toNat '0' ++ ['.', '0']
  else if 0 < point && point ≤ 16 then ds.take point.toNat ++ ['.'] ++ ds.drop point.toNat
  else if -5 < point && point ≤ 0 then ['0', '.'] ++ List.replicate (-point).toNat '0' ++ ds
  else
    let tail := 'e' :: (if 0 < point then '+' else '-') :: Integers.digits (point - 1).natAbs
    match ds with
    | [c] => c :: tail
    | c :: cs => c :: '.' :: cs ++ tail
    | [] => tail

def text (d : Double) : List Char :=
  let sign := if d.negative then ['-'] else []
  if d.mantissa = 0 then sign ++ ['0', '.', '0']
  else sign ++ layout (Integers.digits d.shortest.1) d.shortest.2

end Double

end LeaseBroker
