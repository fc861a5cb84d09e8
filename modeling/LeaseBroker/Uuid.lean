/-!
# UUIDs

A UUID is a number of 128 bits, written as 32 hexadecimal digits in groups of
8, 4, 4, 4 and 12. Every written UUID has 36 characters, and different UUIDs are
written differently.
-/

namespace LeaseBroker

/-- A number of 128 bits. -/
abbrev Uuid := BitVec 128

namespace Uuid

def hexDigit (n : Nat) : Char := (Nat.digitChar (n % 16))

/-- The last `count` hexadecimal digits of `n`. -/
def hexDigits : Nat → Nat → List Char
  | 0, _ => []
  | count + 1, n => hexDigits count (n / 16) ++ [hexDigit n]

/-- A dash in front of the digits 8, 12, 16 and 20. -/
def grouped (ds : List Char) : List Char :=
  ds.take 8 ++ '-' :: (ds.drop 8).take 4 ++ '-' :: (ds.drop 12).take 4 ++ '-' :: (ds.drop 16).take 4 ++
    '-' :: ds.drop 20

def chars (u : Uuid) : List Char := grouped (hexDigits 32 u.toNat)

def text (u : Uuid) : String := String.ofList u.chars

theorem length_hexDigits (count n : Nat) : (hexDigits count n).length = count := by
  induction count generalizing n with
  | zero => rfl
  | succ count ih => simp [hexDigits, ih]

theorem length_chars (u : Uuid) : u.chars.length = 36 := by
  simp [chars, grouped, length_hexDigits]

theorem hexDigit_inj {m n : Nat} (h : hexDigit m = hexDigit n) : m % 16 = n % 16 := by
  have hm : m % 16 < 16 := Nat.mod_lt _ (by decide)
  have hn : n % 16 < 16 := Nat.mod_lt _ (by decide)
  unfold hexDigit at h
  revert h
  generalize m % 16 = a at *
  generalize n % 16 = b at *
  have : ∀ a : Fin 16, ∀ b : Fin 16, Nat.digitChar a = Nat.digitChar b → a.val = b.val := by decide
  exact this ⟨a, hm⟩ ⟨b, hn⟩

theorem hexDigits_inj {count m n : Nat} (h : hexDigits count m = hexDigits count n) :
    m % Nat.pow 16 count = n % Nat.pow 16 count := by
  induction count generalizing m n with
  | zero => simp [Nat.mod_one]
  | succ count ih =>
    have ⟨h1, h2⟩ := List.append_inj' h rfl
    have h3 := hexDigit_inj (by simpa using h2)
    have h4 := ih h1
    show m % 16 ^ (count + 1) = n % 16 ^ (count + 1)
    rw [Nat.pow_succ, Nat.mul_comm, Nat.mod_mul, Nat.mod_mul, h3, show m / 16 % 16 ^ count = n / 16 % 16 ^ count from h4]

theorem grouped_inj {ds es : List Char} (hd : ds.length = 32) (he : es.length = 32)
    (h : grouped ds = grouped es) : ds = es := by
  have len (n k : Nat) : ((ds.drop n).take k).length = ((es.drop n).take k).length := by simp [hd, he]
  unfold grouped at h
  simp only [List.append_assoc, List.cons_append] at h
  have ⟨h1, t1⟩ := List.append_inj h (by simp [hd, he])
  have ⟨h2, t2⟩ := List.append_inj (List.cons.inj t1).2 (len 8 4)
  have ⟨h3, t3⟩ := List.append_inj (List.cons.inj t2).2 (len 12 4)
  have ⟨h4, t4⟩ := List.append_inj (List.cons.inj t3).2 (len 16 4)
  have h5 := (List.cons.inj t4).2
  have split (l : List Char) : l = l.take 8 ++ ((l.drop 8).take 4 ++ ((l.drop 12).take 4 ++
      ((l.drop 16).take 4 ++ l.drop 20))) := by
    conv => lhs; rw [← List.take_append_drop 8 l, ← List.take_append_drop 4 (l.drop 8), List.drop_drop,
      ← List.take_append_drop 4 (l.drop 12), List.drop_drop, ← List.take_append_drop 4 (l.drop 16), List.drop_drop]
  rw [split ds, split es, h1, h2, h3, h4, h5]

/-- Different UUIDs are written differently. -/
theorem chars_inj {u v : Uuid} (h : u.chars = v.chars) : u = v := by
  have := hexDigits_inj (grouped_inj (length_hexDigits _ _) (length_hexDigits _ _) h)
  have hu := u.isLt
  have hv := v.isLt
  apply BitVec.eq_of_toNat_eq
  rwa [Nat.mod_eq_of_lt (by exact hu), Nat.mod_eq_of_lt (by exact hv)] at this

end Uuid

end LeaseBroker
