import LeaseBroker.Fields
import LeaseBroker.Proofs.JsonText
import Mathlib.Data.List.TakeWhile

/-!
Which values of a request field are read as a duration or as an integer, and what
they are read as. A duration is a whole number below 2⁶⁴, or digits with a unit
behind them whose seconds are below 2⁶⁴ (`Lasts`). An integer means the same as a
number and as a text of its digits (`Spells`), however large it is: what is not
accepted in one spelling is not accepted in the other.
-/
namespace LeaseBroker

theorem not_isBlank_of_isDigit {c : Char} (digit : c.isDigit = true) : isBlank c = false := by
  have range : 48 ≤ c.toNat ∧ c.toNat ≤ 57 := by
    simpa [Char.isDigit, UInt32.le_iff_toNat_le] using digit
  simp only [isBlank, Bool.or_eq_false_iff, Bool.and_eq_false_iff, decide_eq_false_iff_not, beq_eq_false_iff_ne]
  omega

theorem Blank.trim_of_visible {cs : List Char} (visible : ∀ c ∈ cs, isBlank c = false) : trim cs = cs := by
  refine strip_of_ends (fun c first => visible c ?_) fun c last => visible c ?_
  · exact List.mem_of_mem_head? first
  · exact List.mem_of_mem_getLast? last

theorem Except.map_eq_ok_iff {ε α β : Type} {f : α → β} {r : Except ε α} {b : β} :
    r.map f = .ok b ↔ ∃ a, r = .ok a ∧ f a = b := by
  cases r with
  | error e => exact iff_of_false nofun fun ⟨_, same, _⟩ => nomatch same
  | ok a => simp [Except.map]

theorem Except.toOption_eq_some_iff {ε α : Type} {r : Except ε α} {a : α} : r.toOption = some a ↔ r = .ok a := by
  cases r <;> simp [Except.toOption]

namespace Integers

/-- The text of an integer in decimal digits. -/
def decimal (n : Int) : String := String.ofList (chars n)

theorem toList_decimal (n : Int) : (decimal n).toList = chars n := String.toList_ofList

theorem not_isBlank_of_mem_chars {n : Int} {c : Char} (member : c ∈ chars n) : isBlank c = false := by
  cases n with
  | ofNat n => exact not_isBlank_of_isDigit (isDigit_of_mem_digits member)
  | negSucc n =>
    rcases List.mem_cons.1 member with rfl | member
    · decide
    · exact not_isBlank_of_isDigit (isDigit_of_mem_digits member)

theorem all_digits (n : Nat) : (digits n).all Char.isDigit = true := List.all_eq_true.2 fun _ => isDigit_of_mem_digits

theorem scan_digits {limit n m : Nat} {beyond : IntegerError} :
    scan limit beyond 0 (digits n) = .ok m ↔ m = n ∧ n ≤ limit := by
  rw [scan_eq_ok_iff (Nat.zero_le limit)]
  have same : valueFrom 0 (digits n) = n := value_digits n
  rw [same]
  constructor
  · rintro ⟨-, rfl, within⟩
    exact ⟨rfl, within⟩
  · rintro ⟨rfl, within⟩
    exact ⟨all_digits m, rfl, within⟩

/-- What begins with a digit has no sign. -/
theorem signed_of_digit {limit : Nat} {s : String} {c : Char} {cs : List Char} (written : s.toList = c :: cs)
    (digit : c.isDigit = true) : signed limit s = (scan limit .tooLarge 0 (c :: cs)).map Int.ofNat := by
  unfold signed
  rw [written]
  split
  · rename_i same
    cases same
  · rename_i same
    obtain ⟨rfl, -⟩ := List.cons.inj same
    cases digit
  · rename_i same
    obtain ⟨rfl, -⟩ := List.cons.inj same
    cases digit
  · rfl

/-- An integer is read from its digits just where it is in the range. -/
theorem signed_decimal {limit : Nat} {n m : Int} :
    signed limit (decimal n) = .ok m ↔ m = n ∧ -(limit + 1 : Int) ≤ n ∧ n ≤ limit := by
  cases n with
  | ofNat n =>
    obtain ⟨d, ds, written⟩ := List.exists_cons_of_ne_nil (digits_ne_nil n)
    have digit : d.isDigit = true := isDigit_of_mem_digits (written ▸ List.mem_cons_self)
    have whole : (decimal (.ofNat n)).toList = d :: ds := (toList_decimal _).trans written
    rw [signed_of_digit whole digit, ← written, Except.map_eq_ok_iff]
    simp only [scan_digits, Int.ofNat_eq_natCast]
    constructor
    · rintro ⟨k, ⟨rfl, within⟩, rfl⟩
      omega
    · rintro ⟨rfl, -, within⟩
      exact ⟨n, ⟨rfl, by omega⟩, rfl⟩
  | negSucc n =>
    have read : signed limit (decimal (.negSucc n)) =
        Except.map (fun k : Nat => -(k : Int)) (scan (limit + 1) .tooSmall 0 (digits (n + 1))) := by
      have some : (digits (n + 1)).isEmpty = false := List.isEmpty_eq_false_iff.2 (digits_ne_nil (n + 1))
      have written : (decimal (.negSucc n)).toList = '-' :: digits (n + 1) := toList_decimal _
      simp only [signed, written, afterSign, some, Bool.false_eq_true, if_false]
      cases scan (limit + 1) .tooSmall 0 (digits (n + 1)) <;> rfl
    rw [read, Except.map_eq_ok_iff]
    simp only [scan_digits, Int.negSucc_eq]
    constructor
    · rintro ⟨k, ⟨rfl, within⟩, rfl⟩
      omega
    · rintro ⟨rfl, least, -⟩
      exact ⟨n + 1, ⟨rfl, by omega⟩, by omega⟩

end Integers

namespace Fields

open Integers (digits value decimal)
open JsonReader (literal Whole literal_of_whole literal_of_not_whole)

variable {data : Data} {key : String} {v : Json}

theorem given?_eq_none_iff : given? data key = none ↔ data.get? key = none ∨ data.get? key = some .null := by
  unfold given?
  split <;> simp_all

theorem given?_eq_some_iff : given? data key = some v ↔ data.get? key = some v ∧ v ≠ .null := by
  unfold given?
  split <;> simp_all
  rintro rfl
  assumption

theorem given?_insert (present : v ≠ .null) : given? (data.insert key v) key = some v :=
  given?_eq_some_iff.2 ⟨Table.get?_insert_self .., present⟩

/-! ## Durations -/

/-- The seconds that a value stands for as a duration. -/
inductive Lasts : Json → Nat → Prop
  | number (n : Nat) : Lasts (.number (.integer n)) n
  | text {s : String} {ds unit : List Char} {seconds : Nat} (written : Blank.trim s.toList = ds ++ unit)
      (some : ds ≠ []) (decimal : ∀ c ∈ ds, c.isDigit = true)
      (known : (unit, seconds) ∈ [([], 1), (['s'], 1), (['m'], 60), (['h'], 3600), (['d'], 86400)]) :
      Lasts (.string s) (value ds * seconds)

theorem unitSeconds?_eq_some_iff {unit : List Char} {seconds : Nat} : unitSeconds? unit = some seconds ↔
    (unit, seconds) ∈ [([], 1), (['s'], 1), (['m'], 60), (['h'], 3600), (['d'], 86400)] := by
  unfold unitSeconds?
  split <;> simp_all [eq_comm]

theorem Lasts.not_null {n : Nat} (h : Lasts v n) : v ≠ .null := by
  rintro rfl
  cases h

theorem takeWhile_written {ds unit : List Char} {seconds : Nat} (decimal : ∀ c ∈ ds, c.isDigit = true)
    (known : unitSeconds? unit = some seconds) : (ds ++ unit).takeWhile Char.isDigit = ds ∧
      (ds ++ unit).dropWhile Char.isDigit = unit := by
  rw [List.takeWhile_append_of_pos decimal, List.dropWhile_append_of_pos decimal]
  have undigested : unit.takeWhile Char.isDigit = [] ∧ unit.dropWhile Char.isDigit = unit := by
    unfold unitSeconds? at known
    split at known
    all_goals first | exact ⟨rfl, rfl⟩ | cases known
  rw [undigested.1, undigested.2, List.append_nil]
  exact ⟨rfl, rfl⟩

/-- A value stands for one duration at most. -/
theorem Lasts.unique {n m : Nat} (h : Lasts v n) (h' : Lasts v m) : n = m := by
  cases h with
  | number => cases h' with | number => rfl
  | text written _ decimal known =>
    cases h' with
    | text written' _ decimal' known' =>
      have known := unitSeconds?_eq_some_iff.2 known
      have known' := unitSeconds?_eq_some_iff.2 known'
      obtain ⟨taken, dropped⟩ := takeWhile_written decimal known
      obtain ⟨taken', dropped'⟩ := takeWhile_written decimal' known'
      rw [← written, written'] at taken dropped
      obtain rfl := taken.symm.trans taken'
      obtain rfl := dropped.symm.trans dropped'
      rw [Option.some.inj (known.symm.trans known')]

theorem nanos_ofSecs {k : Nat} (below : k < UInt64.size) : (Span.ofSecs (.ofNat k)).nanos = k * 1_000_000_000 := by
  show (UInt64.ofNat k).toNat * 1_000_000_000 = _
  rw [UInt64.toNat_ofNat', Nat.mod_eq_of_lt below]

theorem durationText?_eq_some_iff {s : String} {d : Span} :
    durationText? s = some d ↔ ∃ n, Lasts (.string s) n ∧ n < UInt64.size ∧ d.nanos = n * 1_000_000_000 := by
  constructor
  · intro read
    unfold durationText? at read
    dsimp only at read
    split at read
    · cases read
    · rename_i some
      obtain ⟨k, scanned, read⟩ := Option.bind_eq_some_iff.1 read
      obtain ⟨seconds, known, read⟩ := Option.bind_eq_some_iff.1 read
      split at read
      · rename_i below
        cases read
        have counted := (Integers.scan_eq_ok_iff (Nat.zero_le _)).1 (Except.toOption_eq_some_iff.1 scanned)
        obtain ⟨-, rfl, -⟩ := counted
        refine ⟨_, .text List.takeWhile_append_dropWhile.symm ?_ ?_ (unitSeconds?_eq_some_iff.1 known), below,
          nanos_ofSecs below⟩
        · simpa using some
        · exact fun c => List.mem_takeWhile_imp
      · cases read
  · rintro ⟨n, lasts, below, nanos⟩
    cases lasts with
    | @text _ ds unit seconds written some decimal known =>
      have known := unitSeconds?_eq_some_iff.2 known
      obtain ⟨taken, dropped⟩ := takeWhile_written decimal known
      have some : ds.isEmpty = false := List.isEmpty_eq_false_iff.2 some
      have least : value ds ≤ value ds * seconds := by
        have pos : 0 < seconds := by
          unfold unitSeconds? at known
          split at known <;> cases known <;> decide
        exact Nat.le_mul_of_pos_right _ pos
      have scanned : Integers.scan (UInt64.size - 1) .tooLarge 0 ds = .ok (value ds) := by
        refine (Integers.scan_eq_ok_iff (Nat.zero_le _)).2 ⟨List.all_eq_true.2 decimal, rfl, ?_⟩
        omega
      have same : d = .ofSecs (.ofNat (value ds * seconds)) := Span.ext (nanos.trans (nanos_ofSecs below).symm)
      simp only [durationText?, written, taken, dropped, some, Bool.false_eq_true, if_false, scanned, known]
      rw [same]
      exact if_pos below

/-- A duration is given just where the field lasts that long, and nothing is cut off it. -/
theorem duration_eq_some_iff {d : Span} : duration data key = .ok (some d) ↔
    ∃ v n, data.get? key = some v ∧ Lasts v n ∧ n < UInt64.size ∧ d.nanos = n * 1_000_000_000 := by
  have given : (∃ v n, data.get? key = some v ∧ Lasts v n ∧ n < UInt64.size ∧ d.nanos = n * 1_000_000_000) ↔
      ∃ v, given? data key = some v ∧ ∃ n, Lasts v n ∧ n < UInt64.size ∧ d.nanos = n * 1_000_000_000 := by
    constructor
    · rintro ⟨v, n, stored, lasts, rest⟩
      exact ⟨v, given?_eq_some_iff.2 ⟨stored, lasts.not_null⟩, n, lasts, rest⟩
    · rintro ⟨v, given, n, rest⟩
      exact ⟨v, n, (given?_eq_some_iff.1 given).1, rest⟩
  rw [given]
  unfold duration
  cases found : given? data key with
  | none => exact iff_of_false nofun nofun
  | some v =>
    rw [show (∃ w, some v = some w ∧ ∃ n, Lasts w n ∧ n < UInt64.size ∧ d.nanos = n * 1_000_000_000) ↔
      ∃ n, Lasts v n ∧ n < UInt64.size ∧ d.nanos = n * 1_000_000_000 by simp]
    cases v with
    | number number =>
      dsimp only
      constructor
      · intro read
        split at read
        · rename_i k counted
          cases read
          obtain ⟨whole, below⟩ := Option.filter_eq_some_iff.1 counted
          have below : k < UInt64.size := of_decide_eq_true below
          obtain rfl := JsonNumber.toNat?_eq_some_iff.1 whole
          exact ⟨k, .number k, below, nanos_ofSecs below⟩
        · cases read
      · rintro ⟨n, lasts, below, nanos⟩
        cases lasts
        have counted : (JsonNumber.integer n).toNat?.filter (· < UInt64.size) = some n := by
          rw [JsonNumber.toNat?_eq_some_iff.2 rfl, Option.filter_some, if_pos (decide_eq_true below)]
        rw [counted]
        exact congrArg (fun d => Except.ok (some d)) (Span.ext ((nanos_ofSecs below).trans nanos.symm))
    | string s =>
      rw [← durationText?_eq_some_iff]
      dsimp only
      cases durationText? s with
      | none => exact iff_of_false nofun nofun
      | some d' => simp
    | _ => exact iff_of_false nofun nofun

theorem duration_eq_none_iff :
    duration data key = .ok none ↔ data.get? key = none ∨ data.get? key = some .null := by
  rw [← given?_eq_none_iff]
  unfold duration
  cases given? data key with
  | none => exact iff_of_true rfl rfl
  | some v =>
    refine iff_of_false ?_ nofun
    cases v with
    | number n =>
      dsimp only
      split <;> exact nofun
    | string s =>
      dsimp only
      split <;> exact nofun
    | _ => exact nofun

theorem kind_of_expected {α : Type} {what : String} {e : Refusal}
    (h : (expected key what : Except Refusal α) = .error e) : e.kind = .validation := by
  cases h
  rfl

theorem kind_of_duration {e : Refusal} (refused : duration data key = .error e) : e.kind = .validation := by
  unfold duration at refused
  split at refused
  · cases refused
  · split at refused
    · cases refused
    · exact kind_of_expected refused
  · split at refused
    · cases refused
    · exact kind_of_expected refused
  · exact kind_of_expected refused

/-! ## Integers -/

/-- An integer is spelled as a number or as a text of its digits. -/
inductive Spells (n : Int) : Json → Prop
  | number {v : Json} (read : JsonReader.ofText (decimal n) = some v) : Spells n v
  | text : Spells n (.string (decimal n))

/-- As a number it is either one of 64 bits or nothing that is read as an integer. -/
theorem Spells.cases_literal {n : Int} (spelled : Spells n v) : v = .string (decimal n) ∨
    Whole n ∧ v = .number (.integer n) ∨ ¬Whole n ∧ ((∃ d, v = .number (.double d)) ∨ v = .unreadable) := by
  cases spelled with
  | text => exact .inl rfl
  | number read =>
    obtain rfl : literal n = v := Option.some.inj ((JsonReader.ofText_chars n).symm.trans read)
    by_cases whole : Whole n
    · exact .inr (.inl ⟨whole, literal_of_whole whole⟩)
    · exact .inr (.inr ⟨whole, literal_of_not_whole whole⟩)

theorem Spells.not_null {n : Int} (spelled : Spells n v) : v ≠ .null := by
  rcases spelled.cases_literal with rfl | ⟨-, rfl⟩ | ⟨-, ⟨d, rfl⟩ | rfl⟩ <;> exact nofun

theorem trimText_decimal (n : Int) : Blank.trimText (decimal n) = decimal n := by
  rw [Blank.trimText, Integers.toList_decimal, Blank.trim_of_visible fun c => Integers.not_isBlank_of_mem_chars]
  rfl

theorem inInt64_iff {n : Int} : inInt64 n = true ↔ -0x8000000000000000 ≤ n ∧ n < 0x8000000000000000 := by
  simp [inInt64]

/-- Both spellings of an integer are accepted just where it has 64 bits with its sign. -/
theorem intOr_eq_ok_iff {n m default : Int} (spelled : Spells n v) :
    intOr (data.insert key v) key default = .ok m ↔ m = n ∧ inInt64 n = true := by
  have given : given? (data.insert key v) key = some v := given?_insert spelled.not_null
  rw [intOr, given]
  rcases spelled.cases_literal with rfl | ⟨-, rfl⟩ | ⟨beyond, held⟩
  · dsimp only
    rw [trimText_decimal, inInt64_iff]
    have read (k : Int) : Integers.signed 0x7fffffffffffffff (decimal n) = .ok k ↔
        k = n ∧ -(0x7fffffffffffffff + 1) ≤ n ∧ n ≤ 0x7fffffffffffffff := Integers.signed_decimal
    cases signed : Integers.signed 0x7fffffffffffffff (decimal n) with
    | ok k =>
      obtain ⟨rfl, least, most⟩ := (read k).1 signed
      rw [Except.ok.injEq, eq_comm]
      exact (and_iff_left ⟨by omega, by omega⟩).symm
    | error e =>
      refine iff_of_false nofun ?_
      rintro ⟨-, least, most⟩
      have accepted := (read n).2 ⟨rfl, by omega, by omega⟩
      cases signed.symm.trans accepted
  · dsimp only
    split
    · rename_i within
      rw [Except.ok.injEq, eq_comm]
      exact (and_iff_left within).symm
    · rename_i beyond
      exact iff_of_false nofun fun ⟨_, within⟩ => beyond within
  · refine iff_of_false ?_ ?_
    · rcases held with ⟨d, rfl⟩ | rfl <;> exact nofun
    · rintro ⟨-, within⟩
      obtain ⟨least, most⟩ := inInt64_iff.1 within
      exact beyond ⟨least, by omega⟩

/-- Both are accepted as a number of 32 bits without sign just where it is one. -/
theorem uintOr_eq_ok_iff {n : Int} {default m : UInt32} (spelled : Spells n v) :
    uintOr (data.insert key v) key default = .ok m ↔ (m.toNat : Int) = n := by
  have size : UInt32.size = 0x100000000 := rfl
  have small : m.toNat < UInt32.size := m.toNat_lt_size
  have read (k : Int) : intOr (data.insert key v) key default.toNat = .ok k ↔ k = n ∧ inInt64 n = true :=
    intOr_eq_ok_iff spelled
  unfold uintOr
  cases found : intOr (data.insert key v) key default.toNat with
  | error e =>
    refine iff_of_false nofun fun same => ?_
    have within : inInt64 n = true := inInt64_iff.2 ⟨by omega, by omega⟩
    cases found.symm.trans ((read n).2 ⟨rfl, within⟩)
  | ok k =>
    obtain ⟨rfl, -⟩ := (read k).1 found
    show (if 0 ≤ k && k < UInt32.size then Except.ok (UInt32.ofNat k.toNat) else expected key "a non-negative integer") =
      .ok m ↔ _
    split
    · rename_i within
      have range : 0 ≤ k ∧ k < UInt32.size := by simpa using within
      have value : (UInt32.ofNat k.toNat).toNat = k.toNat := UInt32.toNat_ofNat_of_lt' (by omega)
      rw [Except.ok.injEq, ← UInt32.toNat_inj, value]
      omega
    · rename_i beyond
      refine iff_of_false nofun fun same => beyond ?_
      have range : 0 ≤ k ∧ k < UInt32.size := by omega
      simpa using range

theorem kind_of_intOr {default : Int} {e : Refusal} (refused : intOr data key default = .error e) :
    e.kind = .validation := by
  unfold intOr at refused
  split at refused
  · cases refused
  · split at refused
    · cases refused
    · exact kind_of_expected refused
  · split at refused
    · cases refused
    · exact kind_of_expected refused
  · exact kind_of_expected refused

theorem kind_of_uintOr {default : UInt32} {e : Refusal} (refused : uintOr data key default = .error e) :
    e.kind = .validation := by
  unfold uintOr at refused
  cases found : intOr data key default.toNat with
  | error e' =>
    rw [found] at refused
    cases refused
    exact kind_of_intOr found
  | ok n =>
    rw [found] at refused
    replace refused : (if 0 ≤ n && n < UInt32.size then Except.ok (UInt32.ofNat n.toNat)
      else expected key "a non-negative integer") = .error e := refused
    split at refused
    · cases refused
    · exact kind_of_expected refused

/-! ## Spelled alike -/

theorem lasts_decimal {n seconds : Nat} {s : String} {unit : List Char} (written : s.toList = digits n ++ unit)
    (visible : ∀ c ∈ unit, isBlank c = false) (known : unitSeconds? unit = some seconds) :
    Lasts (.string s) (n * seconds) := by
  have trimmed : Blank.trim s.toList = digits n ++ unit := by
    rw [written]
    refine Blank.trim_of_visible fun c member => ?_
    rcases List.mem_append.1 member with digit | last
    · exact not_isBlank_of_isDigit (Integers.isDigit_of_mem_digits digit)
    · exact visible c last
  have lasts := Lasts.text trimmed (Integers.digits_ne_nil n) (fun c => Integers.isDigit_of_mem_digits)
    (unitSeconds?_eq_some_iff.1 known)
  rwa [Integers.value_digits] at lasts

/-- Digits are seconds, with a unit or without. -/
theorem lasts_iff_of_spells {n m : Nat} (spelled : Spells n v ∨ v = .string (decimal n ++ "s"))
    (below : m < UInt64.size) : Lasts v m ↔ m = n := by
  suffices known : Lasts v n ∨ UInt64.size ≤ n ∧ ∀ k, ¬Lasts v k by
    rcases known with lasts | ⟨beyond, never⟩
    · exact ⟨fun h => h.unique lasts, fun same => same ▸ lasts⟩
    · exact iff_of_false (never m) (by omega)
  have written : (decimal n).toList = digits n := Integers.toList_decimal n
  rcases spelled with spelled | rfl
  · rcases spelled.cases_literal with rfl | ⟨-, rfl⟩ | ⟨beyond, held⟩
    · left
      have lasts : Lasts (.string (decimal n)) (n * 1) :=
        lasts_decimal (written.trans (List.append_nil _).symm) (by simp) rfl
      rwa [Nat.mul_one] at lasts
    · exact .inl (.number n)
    · right
      have size : UInt64.size = 0x10000000000000000 := rfl
      have far : ¬(-0x8000000000000000 ≤ (n : Int) ∧ (n : Int) < 0x10000000000000000) := beyond
      refine ⟨by omega, fun k lasts => ?_⟩
      rcases held with ⟨d, rfl⟩ | rfl <;> cases lasts
  · left
    have last : "s".toList = ['s'] := by decide +kernel
    have whole : (decimal n ++ "s").toList = digits n ++ ['s'] := by rw [String.toList_append, written, last]
    have visible : ∀ c ∈ ['s'], isBlank c = false := List.forall_mem_singleton.2 (by decide)
    have lasts := lasts_decimal whole visible rfl
    rwa [Nat.mul_one] at lasts

theorem duration_insert_eq_ok_iff {n : Nat} {d? : Option Span}
    (spelled : Spells n v ∨ v = .string (decimal n ++ "s")) :
    duration (data.insert key v) key = .ok d? ↔ ∃ d, d? = some d ∧ d.nanos = n * 1_000_000_000 := by
  have stored : (data.insert key v).get? key = some v := Table.get?_insert_self ..
  cases d? with
  | none =>
    rw [duration_eq_none_iff, stored]
    refine iff_of_false ?_ nofun
    rintro (none | null)
    · cases none
    · obtain rfl := Option.some.inj null
      rcases spelled with spelled | other
      · exact spelled.not_null rfl
      · cases other
  | some d =>
    rw [duration_eq_some_iff]
    constructor
    · rintro ⟨w, m, given, lasts, below, nanos⟩
      obtain rfl := Option.some.inj (stored.symm.trans given)
      obtain rfl := (lasts_iff_of_spells spelled below).1 lasts
      exact ⟨d, rfl, nanos⟩
    · rintro ⟨_, same, nanos⟩
      obtain rfl := Option.some.inj same
      have short := d.nanos_lt
      have below : n < UInt64.size := by omega
      exact ⟨v, n, stored, (lasts_iff_of_spells spelled below).2 rfl, below, nanos⟩

/-- What the fields of a request may be where a duration or an integer is wanted. A duration is as long as it says, and
    everything else is refused as malformed. Numbers and their digits are accepted alike, and a duration with a unit of
    seconds, too. -/
theorem spellings_accepted (data : Data) (key : String) :
    (duration data key = .ok none ↔ data.get? key = none ∨ data.get? key = some .null) ∧
    (∀ d, duration data key = .ok (some d) ↔
      ∃ v n, data.get? key = some v ∧ Lasts v n ∧ n < UInt64.size ∧ d.nanos = n * 1_000_000_000) ∧
    (∀ e, duration data key = .error e → e.kind = .validation) ∧
    (∀ n : Nat, ∀ v, Spells n v ∨ v = .string (decimal n ++ "s") → ∀ d?,
      duration (data.insert key v) key = .ok d? ↔ ∃ d, d? = some d ∧ d.nanos = n * 1_000_000_000) ∧
    (∀ n : Int, ∀ v, Spells n v →
      (∀ default m, intOr (data.insert key v) key default = .ok m ↔ m = n ∧ inInt64 n = true) ∧
      ∀ default m, uintOr (data.insert key v) key default = .ok m ↔ (m.toNat : Int) = n) ∧
    (∀ default e, intOr data key default = .error e → e.kind = .validation) ∧
    ∀ default e, uintOr data key default = .error e → e.kind = .validation :=
  ⟨duration_eq_none_iff, fun _ => duration_eq_some_iff, fun _ => kind_of_duration,
    fun _ _ spelled _ => duration_insert_eq_ok_iff spelled,
    fun _ _ spelled => ⟨fun _ _ => intOr_eq_ok_iff spelled, fun _ _ => uintOr_eq_ok_iff spelled⟩,
    fun _ _ => kind_of_intOr, fun _ _ => kind_of_uintOr⟩

/-- An hour and a half with blanks around it, one duration as a number and with a unit, and a port in a text. -/
theorem spellings_accepted_ninety :
    duration (Table.empty.insert "ttl" (.string " 90m ")) "ttl" = .ok (some (.ofSecs 5400)) ∧
    duration (Table.empty.insert "ttl" (.string "90s")) "ttl" = .ok (some (.ofSecs 90)) ∧
    duration (Table.empty.insert "ttl" (.number (.integer 90))) "ttl" = .ok (some (.ofSecs 90)) ∧
    uintOr (Table.empty.insert "port" (.string "90")) "port" 5432 = .ok 90 := by
  have lasts : Lasts (.string " 90m ") (value ['9', '0'] * 60) := by
    have written : Blank.trim " 90m ".toList = ['9', '0'] ++ ['m'] := by decide +kernel
    exact .text written nofun (List.all_eq_true.1 (by decide)) (by decide)
  have read : JsonReader.ofText (decimal 90) = some (.number (.integer 90)) := by
    rw [decimal, JsonReader.ofText_chars, literal_of_whole ⟨by decide, by decide⟩]
  have seconds : Json.string "90s" = .string (decimal (90 : Nat) ++ "s") := congrArg Json.string (by decide +kernel)
  have digits : Json.string "90" = .string (decimal 90) := congrArg Json.string (by decide +kernel)
  have given := (spellings_accepted (Table.empty.insert "ttl" (.string " 90m ")) "ttl").2.1 (.ofSecs 5400)
  have alike := (spellings_accepted Table.empty "ttl").2.2.2.1 90
  have integer := (spellings_accepted Table.empty "port").2.2.2.2.1 90
  refine ⟨given.2 ⟨_, _, Table.get?_insert_self .., lasts, by decide, by decide⟩, ?_, ?_, ?_⟩
  · exact (alike _ (.inr seconds) _).2 ⟨_, rfl, by decide⟩
  · exact (alike _ (.inl (.number read)) _).2 ⟨_, rfl, by decide⟩
  · exact ((integer _ (digits ▸ .text)).2 5432 90).2 (by decide)

end Fields

end LeaseBroker
