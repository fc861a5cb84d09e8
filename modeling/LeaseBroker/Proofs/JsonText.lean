import LeaseBroker.JsonReader

/-!
Reading gives back what was written. A value is written without blanks, so the
reader finds its end by itself, except behind a number, which must be followed
by something that cannot belong to it (`Clear`). Doubles are left out: none of
the values that the broker stores is one.
-/
namespace LeaseBroker

namespace JsonReader

/-! ## Texts -/

/-- The unit as which a written character is read. -/
def unitOf (c : Char) : CodeUnit :=
  if c ∈ ['"', '\\', '\x08', '\x0c', '\n', '\r', '\t'] then .char c
  else if c.toNat < 0x20 then .word c.toNat
  else .char c

theorem hexValue?_digitChar {n : Nat} (h : n < 16) : hexValue? (Nat.digitChar n) = some n := by
  revert n
  decide

theorem units_escape (c : Char) (rest : List Char) :
    units (Json.escape c ++ rest) = (units rest).map fun (us, r) => (unitOf c :: us, r) := by
  have bindMap (u : CodeUnit) : (do let (us, r) ← units rest; return (u :: us, r) : Option _) =
      (units rest).map fun (us, r) => (u :: us, r) := by
    cases units rest <;> rfl
  unfold Json.escape unitOf
  split
  all_goals try exact bindMap _
  rename_i quote backslash back feed line carriage tab
  have named : c ∉ ['"', '\\', '\x08', '\x0c', '\n', '\r', '\t'] := by simp_all
  rw [if_neg named]
  split
  · rename_i control
    have word : hexWord? '0' '0' (Nat.digitChar (c.toNat / 16)) (Nat.digitChar (c.toNat % 16)) = some c.toNat := by
      have zero : hexValue? '0' = some 0 := rfl
      simp only [hexWord?, zero, hexValue?_digitChar (show c.toNat / 16 < 16 by omega),
        hexValue?_digitChar (show c.toNat % 16 < 16 by omega), Option.bind_eq_bind, Option.bind_some]
      show some _ = some _
      congr 1
      omega
    show (do
      let n ← hexWord? '0' '0' (Nat.digitChar (c.toNat / 16)) (Nat.digitChar (c.toNat % 16))
      let (us, r) ← units rest
      return (CodeUnit.word n :: us, r) : Option _) = _
    rw [word]
    exact bindMap _
  · rename_i plain
    have q : c ≠ '"' := fun same => quote same
    have b : c ≠ '\\' := fun same => backslash same
    show units (c :: rest) = _
    rw [units, if_neg plain]
    · exact bindMap _
    all_goals simp_all

theorem units_quoted (cs rest : List Char) :
    units (cs.flatMap Json.escape ++ '"' :: rest) = some (cs.map unitOf, rest) := by
  induction cs with
  | nil => rfl
  | cons c cs ih =>
    rw [List.flatMap_cons, List.append_assoc, units_escape, ih]
    rfl

/-- A word below the surrogates stands for a character by itself. -/
theorem characters?_word {n : Nat} (control : n < 0x20) (us : List CodeUnit) :
    characters? (.word n :: us) = (characters? us).map (Char.ofNat n :: ·) := by
  have high : isHigh n = false := by simp [isHigh]; omega
  have low : isLow n = false := by simp [isLow]; omega
  cases us with
  | nil => simp [characters?, high, low]
  | cons u us => cases u <;> simp [characters?, high, low]

theorem characters?_unitOf (cs : List Char) : characters? (cs.map unitOf) = some cs := by
  induction cs with
  | nil => rfl
  | cons c cs ih =>
    have itself : characters? (.char c :: cs.map unitOf) = some (c :: cs) := by rw [characters?, ih]; rfl
    rw [List.map_cons, unitOf]
    split
    · exact itself
    · split
      · rename_i control
        rw [characters?_word control, ih, Char.ofNat_toNat]
        rfl
      · exact itself

/-- A written text is read as itself. -/
theorem text_quoted (s : String) (rest : List Char) :
    text (s.toList.flatMap Json.escape ++ '"' :: rest) = some (some s, rest) := by
  rw [text, units_quoted, Option.map_some]
  dsimp only
  rw [characters?_unitOf, Option.map_some, String.ofList_toList]

/-! ## Numbers -/

/-- What follows a number without belonging to it. -/
def Clear (rest : List Char) : Prop := rest.head?.all (fun c => !c.isDigit && c != '.' && c != 'e' && c != 'E')

theorem takeWhile_digits (n : Nat) {rest : List Char} (clear : Clear rest) :
    (Integers.digits n ++ rest).takeWhile Char.isDigit = Integers.digits n := by
  rw [List.takeWhile_append_of_pos fun c => Integers.isDigit_of_mem_digits]
  cases rest with
  | nil => simp
  | cons c cs =>
    have : c.isDigit = false := by simp [Clear] at clear; exact clear.1.1.1
    simp [this]

theorem dropWhile_digits (n : Nat) {rest : List Char} (clear : Clear rest) :
    (Integers.digits n ++ rest).dropWhile Char.isDigit = rest := by
  rw [List.dropWhile_append_of_pos fun c => Integers.isDigit_of_mem_digits]
  cases rest with
  | nil => rfl
  | cons c cs =>
    have : c.isDigit = false := by simp [Clear] at clear; exact clear.1.1.1
    simp [this]

/-- No number but zero is written with a zero in front. -/
theorem head_digits {n : Nat} (h : 0 < n) : (Integers.digits n).head? ≠ some '0' := by
  induction n using Nat.strongRecOn with
  | ind n ih =>
    by_cases small : n < 10
    · rw [Integers.digits, Nat.toDigits_of_lt_base small]
      have : ∀ n < 10, 0 < n → Nat.digitChar n ≠ '0' := by decide
      simpa using this n small h
    · have below := ih (n / 10) (by omega) (by omega)
      unfold Integers.digits at below ⊢
      rw [Nat.toDigits_of_base_le (by decide) (by omega)]
      cases digits : Nat.toDigits 10 (n / 10) with
      | nil => exact absurd digits (Integers.digits_ne_nil (n / 10))
      | cons d ds =>
        rw [digits] at below
        simpa using below

theorem wholeDigits_digits (n : Nat) {rest : List Char} (clear : Clear rest) :
    wholeDigits (Integers.digits n ++ rest) = some (Integers.digits n, rest) := by
  by_cases zero : n = 0
  · subst zero
    rfl
  · have head := head_digits (Nat.pos_of_ne_zero zero)
    unfold wholeDigits
    split
    · rename_i r same
      cases digits : Integers.digits n with
      | nil => exact absurd digits (Integers.digits_ne_nil n)
      | cons d ds =>
        rw [digits] at head same
        simp_all
    · rw [takeWhile_digits n clear, dropWhile_digits n clear]
      cases digits : Integers.digits n with
      | nil => exact absurd digits (Integers.digits_ne_nil n)
      | cons d ds => rfl

theorem unsignedNumber_digits (negative : Bool) (n : Nat) {rest : List Char} (clear : Clear rest) :
    unsignedNumber negative (Integers.digits n ++ rest) = some (wholeNumber negative (Integers.digits n), rest) := by
  have fraction : fractionDigits rest = some ([], rest) := by
    unfold fractionDigits
    split
    · simp [Clear] at clear
    · rfl
  have exponent : exponentPart rest = some (none, rest) := by
    unfold exponentPart
    split
    · simp [Clear] at clear
    · simp [Clear] at clear
    · rfl
  simp [unsignedNumber, wholeDigits_digits n clear, fraction, exponent]

/-- The whole numbers that are not read as doubles. -/
def Whole (n : Int) : Prop := -0x8000000000000000 ≤ n ∧ n < 0x10000000000000000

/-- The value as which the decimal digits of an integer are read. -/
def literal (n : Int) : Json := wholeNumber (decide (n < 0)) (Integers.digits n.natAbs)

theorem literal_of_whole {n : Int} (whole : Whole n) : literal n = .number (.integer n) := by
  obtain ⟨least, most⟩ := whole
  have size : UInt64.size = 0x10000000000000000 := rfl
  rw [literal, wholeNumber, Integers.value_digits]
  by_cases negative : n < 0
  · have few : 0 < n.natAbs ∧ n.natAbs ≤ 0x8000000000000000 := by omega
    have sign : -(n.natAbs : Int) = n := by omega
    simp only [negative, decide_true, if_true, few.1, few.2, Bool.and_self, sign]
  · have few : n.natAbs < UInt64.size := by omega
    have sign : (n.natAbs : Int) = n := by omega
    simp only [negative, decide_false, Bool.false_eq_true, if_false, few, if_true, sign]

/-- Beyond 64 bits an integer is read as a double, if at all. -/
theorem literal_of_not_whole {n : Int} (beyond : ¬Whole n) :
    (∃ d, literal n = .number (.double d)) ∨ literal n = .unreadable := by
  have size : UInt64.size = 0x10000000000000000 := rfl
  have far : ¬(-0x8000000000000000 ≤ n ∧ n < 0x10000000000000000) := beyond
  have double (whole : List Char) : literal n = double (decide (n < 0)) whole [] 0 →
      (∃ d, literal n = .number (.double d)) ∨ literal n = .unreadable := by
    intro same
    rw [same, JsonReader.double]
    cases Double.ofLiteral (decide (n < 0)) whole [] 0 with
    | some d => exact .inl ⟨d, rfl⟩
    | none => exact .inr rfl
  refine double (Integers.digits n.natAbs) ?_
  rw [literal, wholeNumber, Integers.value_digits]
  by_cases negative : n < 0
  · have many : ¬n.natAbs ≤ 0x8000000000000000 := by omega
    simp only [negative, decide_true, if_true, many, decide_false, Bool.and_false, Bool.false_eq_true, if_false]
  · have many : ¬n.natAbs < UInt64.size := by omega
    simp only [negative, decide_false, Bool.false_eq_true, if_false, many]

theorem number_chars (n : Int) {rest : List Char} (clear : Clear rest) :
    number (Integers.chars n ++ rest) = some (literal n, rest) := by
  cases n with
  | ofNat n =>
    have unsigned : number (Integers.digits n ++ rest) = unsignedNumber false (Integers.digits n ++ rest) := by
      unfold number
      split
      · rename_i r same
        cases digits : Integers.digits n with
        | nil => exact absurd digits (Integers.digits_ne_nil n)
        | cons d ds =>
          have digit := Integers.isDigit_of_mem_digits (n := n) (c := d) (by simp [digits])
          rw [digits] at same
          simp_all
      · rfl
    show number (Integers.digits n ++ rest) = _
    rw [unsigned, unsignedNumber_digits false n clear]
    rfl
  | negSucc n =>
    show unsignedNumber true (Integers.digits (n + 1) ++ rest) = _
    rw [unsignedNumber_digits true (n + 1) clear, literal, decide_eq_true (Int.negSucc_lt_zero n)]
    rfl

/-! ## Values -/

mutual

/-- Values whose numbers are all whole, and of which every part can be read. -/
def Plain : Json → Prop
  | .number (.integer n) => Whole n
  | .number (.double _) => False
  | .array vs => AllPlain vs
  | .object fs => FieldsPlain fs
  | .unreadable => False
  | _ => True

def AllPlain : List Json → Prop
  | [] => True
  | v :: vs => Plain v ∧ AllPlain vs

def FieldsPlain : List (String × Json) → Prop
  | [] => True
  | (_, v) :: fs => Plain v ∧ FieldsPlain fs

end

/-- A written number does not start like any other value. -/
theorem head_number (n : Int) :
    ∃ c cs, Integers.chars n = c :: cs ∧ isSpace c = false ∧ c ∉ ['n', 't', 'f', '"', '[', ']', '\x7b'] := by
  cases n with
  | ofNat n =>
    cases digits : Integers.digits n with
    | nil => exact absurd digits (Integers.digits_ne_nil n)
    | cons d ds =>
      have digit := Integers.isDigit_of_mem_digits (n := n) (c := d) (by simp [digits])
      refine ⟨d, ds, digits, ?_, ?_⟩
      · cases space : isSpace d with
        | false => rfl
        | true =>
          simp only [isSpace, Bool.or_eq_true, beq_iff_eq] at space
          rcases space with ((rfl | rfl) | rfl) | rfl <;> exact absurd digit (by decide)
      · intro member
        simp only [List.mem_cons, List.not_mem_nil, or_false] at member
        rcases member with rfl | rfl | rfl | rfl | rfl | rfl | rfl <;> exact absurd digit (by decide)
  | negSucc n => exact ⟨'-', _, rfl, rfl, by decide⟩

theorem value_number (d : Nat) (n : Int) {rest : List Char} (clear : Clear rest) :
    value (d + 1) (Integers.chars n ++ rest) = some (literal n, rest) := by
  obtain ⟨c, cs, same, visible, first⟩ := head_number n
  have read := number_chars n clear
  rw [same] at read ⊢
  have start : skip (c :: cs ++ rest) = c :: cs ++ rest := by simp [skip, visible]
  rw [value, start]
  split
  all_goals try exact read
  -- What is left are the values that start otherwise.
  all_goals
    rename_i other
    obtain ⟨rfl, -⟩ := List.cons.inj other
    exact absurd first (by decide)

/-- A written value starts with neither a blank nor a closing bracket. -/
theorem head_chars {v : Json} (plain : Plain v) : ∃ c cs, v.chars = c :: cs ∧ isSpace c = false ∧ c ≠ ']' := by
  cases v with
  | null => exact ⟨'n', _, rfl, rfl, by decide⟩
  | bool b => cases b <;> exact ⟨_, _, rfl, rfl, by decide⟩
  | number n =>
    cases n with
    | double d => exact plain.elim
    | integer n =>
      obtain ⟨c, cs, same, visible, first⟩ := head_number n
      exact ⟨c, cs, by rw [Json.chars, JsonNumber.chars, same], visible, by rintro rfl; simp at first⟩
  | string s => exact ⟨'"', _, rfl, rfl, by decide⟩
  | array vs => cases vs <;> exact ⟨'[', _, rfl, rfl, by decide⟩
  | object fs =>
    cases fs with
    | nil => exact ⟨'\x7b', _, rfl, rfl, by decide⟩
    | cons f fs => exact ⟨'\x7b', _, rfl, rfl, by decide⟩
  | unreadable => exact plain.elim

theorem objectOf_named (fs : List (String × Json)) : objectOf (fs.map fun f => (some f.1, f.2)) = .object fs := by
  have all : (fs.map fun f => (some f.1, f.2)).mapM (fun f : Option String × Json => f.1.map fun k => (k, f.2)) =
      some fs := by
    induction fs with
    | nil => rfl
    | cons f fs ih => simp [ih]
  rw [objectOf, all]

theorem clear_items (vs : List Json) (rest : List Char) : Clear (Json.itemsFrom vs ++ rest) := by
  cases vs <;> rfl

theorem clear_fields (fs : List (String × Json)) (rest : List Char) : Clear (Json.fieldsFrom fs ++ rest) := by
  cases fs <;> rfl

mutual

/-- A written value is read as itself, and what follows it is left. -/
theorem value_chars (v : Json) (plain : Plain v) (d : Nat) (deep : v.chars.length ≤ d) {rest : List Char}
    (clear : Clear rest) : value d (v.chars ++ rest) = some (v, rest) := by
  cases d with
  | zero =>
    obtain ⟨c, cs, same, -⟩ := head_chars plain
    rw [same] at deep
    exact absurd deep (by simp)
  | succ d =>
    match v with
    | .null => rfl
    | .bool true => rfl
    | .bool false => rfl
    | .number (.integer n) =>
      have read := value_number d n clear
      rwa [literal_of_whole plain] at read
    | .string s =>
      have read := text_quoted s rest
      show (text (s.toList.flatMap Json.escape ++ ['"'] ++ rest)).map _ = _
      rw [List.append_assoc, List.singleton_append, read]
      rfl
    | .array [] => rfl
    | .array (w :: ws) =>
      have shorter : (w.chars ++ Json.itemsFrom ws).length ≤ d := by simpa [Json.chars] using deep
      have read := @items_chars w ws plain d shorter rest
      obtain ⟨c, cs, same, visible, notClosed⟩ := head_chars plain.1
      have start : skip (w.chars ++ Json.itemsFrom ws ++ rest) = w.chars ++ Json.itemsFrom ws ++ rest := by
        simp [same, skip, visible]
      show (match skip (w.chars ++ Json.itemsFrom ws ++ rest) with
        | ']' :: r => some (Json.array [], r)
        | r => (items d r).map fun (vs, r) => (Json.array vs, r)) = _
      rw [start]
      split
      · rename_i other
        rw [same] at other
        exact absurd (List.cons.inj other).1 notClosed
      · rw [read]
        rfl
    | .object [] => rfl
    | .object ((k, w) :: fs) =>
      have shorter : (Json.quoted k ++ ':' :: w.chars ++ Json.fieldsFrom fs).length ≤ d := by
        simpa [Json.chars] using deep
      have read := @fields_chars k w fs plain d shorter rest
      show (fields d (Json.quoted k ++ ':' :: w.chars ++ Json.fieldsFrom fs ++ rest)).map _ = _
      rw [read, Option.map_some]
      exact congrArg some (Prod.ext (objectOf_named ((k, w) :: fs)) rfl)
termination_by d

theorem items_chars (v : Json) (vs : List Json) (plain : AllPlain (v :: vs)) (d : Nat)
    (deep : (v.chars ++ Json.itemsFrom vs).length ≤ d) {rest : List Char} :
    items d (v.chars ++ Json.itemsFrom vs ++ rest) = some (v :: vs, rest) := by
  cases d with
  | zero =>
    obtain ⟨c, cs, same, -⟩ := head_chars plain.1
    simp [same] at deep
  | succ d =>
    have first := value_chars v plain.1 d (by
      have : 0 < (Json.itemsFrom vs).length := by cases vs <;> simp [Json.itemsFrom]
      simp at deep
      omega) (clear_items vs rest)
    rw [items, List.append_assoc, first]
    match vs with
    | [] => rfl
    | w :: ws =>
      have others := @items_chars w ws plain.2 d (by simp [Json.itemsFrom] at deep ⊢; omega) rest
      show (items d (w.chars ++ Json.itemsFrom ws ++ rest)).map _ = _
      rw [others]
      rfl
termination_by d

theorem fields_chars (k : String) (v : Json) (fs : List (String × Json)) (plain : FieldsPlain ((k, v) :: fs)) (d : Nat)
    (deep : (Json.quoted k ++ ':' :: v.chars ++ Json.fieldsFrom fs).length ≤ d) {rest : List Char} :
    fields d (Json.quoted k ++ ':' :: v.chars ++ Json.fieldsFrom fs ++ rest) =
      some ((some k, v) :: fs.map fun f => (some f.1, f.2), rest) := by
  cases d with
  | zero => simp [Json.quoted] at deep
  | succ d =>
    have name := text_quoted k (':' :: v.chars ++ Json.fieldsFrom fs ++ rest)
    have first := value_chars v plain.1 d (by simp at deep; omega) (clear_fields fs rest)
    have shape : Json.quoted k ++ ':' :: v.chars ++ Json.fieldsFrom fs ++ rest =
        '"' :: (k.toList.flatMap Json.escape ++ '"' :: (':' :: v.chars ++ Json.fieldsFrom fs ++ rest)) := by
      simp [Json.quoted]
    rw [shape]
    show (text (k.toList.flatMap Json.escape ++ '"' :: (':' :: v.chars ++ Json.fieldsFrom fs ++ rest))).bind _ = _
    rw [name]
    show (value d (v.chars ++ Json.fieldsFrom fs ++ rest)).bind _ = _
    rw [List.append_assoc, first]
    match fs with
    | [] => rfl
    | (k', w) :: gs =>
      have others := @fields_chars k' w gs plain.2 d (by simp [Json.fieldsFrom] at deep ⊢; omega) rest
      have shape' : Json.fieldsFrom ((k', w) :: gs) ++ rest =
          ',' :: (Json.quoted k' ++ ':' :: w.chars ++ Json.fieldsFrom gs ++ rest) := by
        simp [Json.fieldsFrom]
      rw [shape']
      show (fields d (Json.quoted k' ++ ':' :: w.chars ++ Json.fieldsFrom gs ++ rest)).map _ = _
      rw [others]
      rfl
termination_by d

end

/-- What is written is read as itself. -/
theorem ofText_text {v : Json} (plain : Plain v) : ofText v.text = some v := by
  have read := @value_chars v plain (2 * v.text.length + 2) (by simp [Json.text]; omega) [] rfl
  rw [List.append_nil] at read
  rw [ofText, show v.text.toList = v.chars by simp [Json.text], read]
  rfl

/-- The digits of an integer are a text by themselves. -/
theorem ofText_chars (n : Int) : ofText (String.ofList (Integers.chars n)) = some (literal n) := by
  have clear : Clear [] := rfl
  have read := value_number (2 * (String.ofList (Integers.chars n)).length + 1) n clear
  rw [List.append_nil] at read
  rw [ofText, String.toList_ofList, read]
  rfl

end JsonReader

end LeaseBroker
