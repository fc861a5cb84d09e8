/-!
# Blank characters and trimming

The characters that count as blank are those of the Unicode property
White_Space. Trimming takes them off both ends of a text and touches nothing
between.
-/

namespace LeaseBroker

/-- Membership in the Unicode property White_Space. -/
def isBlank (c : Char) : Bool :=
  let n := c.toNat
  (0x09 ≤ n && n ≤ 0x0d) || n == 0x20 || n == 0x85 || n == 0xa0 || n == 0x1680 ||
    (0x2000 ≤ n && n ≤ 0x200a) || n == 0x2028 || n == 0x2029 || n == 0x202f || n == 0x205f ||
    n == 0x3000

namespace Blank

/-- Drops the characters of both ends on which `p` holds. -/
def strip (p : Char → Bool) (cs : List Char) : List Char :=
  ((cs.dropWhile p).reverse.dropWhile p).reverse

def trim (cs : List Char) : List Char := strip isBlank cs

/-- A text is blank when trimming leaves nothing. -/
def isBlankText (s : String) : Bool := s.toList.all isBlank

def trimText (s : String) : String := String.ofList (trim s.toList)

theorem head_dropWhile {p : Char → Bool} {cs : List Char} {c : Char}
    (h : (cs.dropWhile p).head? = some c) : p c = false := by
  induction cs with
  | nil => simp at h
  | cons d ds ih =>
    rw [List.dropWhile_cons] at h
    split at h
    · exact ih h
    · simp_all

/-- The last character that trimming keeps is not blank. -/
theorem getLast_strip {p : Char → Bool} {cs : List Char} {c : Char}
    (h : (strip p cs).getLast? = some c) : p c = false := by
  unfold strip at h
  rw [List.getLast?_reverse] at h
  exact head_dropWhile h

theorem dropWhile_of_head {p : Char → Bool} {cs : List Char} (kept : ∀ c, cs.head? = some c → p c = false) :
    cs.dropWhile p = cs := by
  cases cs with
  | nil => rfl
  | cons c cs => exact List.dropWhile_cons_of_neg (by simp [kept c rfl])

/-- Nothing is stripped off a text that neither begins nor ends with what is to be stripped. -/
theorem strip_of_ends {p : Char → Bool} {cs : List Char} (begins : ∀ c, cs.head? = some c → p c = false)
    (ends : ∀ c, cs.getLast? = some c → p c = false) : strip p cs = cs := by
  rw [strip, dropWhile_of_head begins, dropWhile_of_head (by simpa using ends), List.reverse_reverse]

theorem dropWhile_eq_nil_iff {p : Char → Bool} {cs : List Char} : cs.dropWhile p = [] ↔ cs.all p := by
  induction cs with
  | nil => simp
  | cons c cs ih =>
    rw [List.dropWhile_cons]
    split <;> simp_all

/-- Stripping leaves nothing just where everything is to be stripped. -/
theorem strip_eq_nil_iff {p : Char → Bool} {cs : List Char} : strip p cs = [] ↔ cs.all p := by
  rw [strip, List.reverse_eq_nil_iff, dropWhile_eq_nil_iff, List.all_reverse]
  constructor
  · intro rest
    cases left : cs.dropWhile p with
    | nil => exact dropWhile_eq_nil_iff.1 left
    | cons c ds =>
      have kept : p c = false := head_dropWhile (by rw [left]; rfl)
      simp [left, kept] at rest
  · intro all
    rw [dropWhile_eq_nil_iff.2 all]
    rfl

/-- What stripping leaves: it stands between what is to be stripped, and neither begins nor ends with any of that. -/
theorem strip_eq_iff {p : Char → Bool} {cs core : List Char} :
    strip p cs = core ↔ (∃ before after, cs = before ++ core ++ after ∧ ∀ c ∈ before ++ after, p c = true) ∧
      (∀ c, core.head? = some c → p c = false) ∧ ∀ c, core.getLast? = some c → p c = false := by
  constructor
  · rintro rfl
    have front : cs.takeWhile p ++ cs.dropWhile p = cs := List.takeWhile_append_dropWhile
    have back : strip p cs ++ ((cs.dropWhile p).reverse.takeWhile p).reverse = cs.dropWhile p := by
      rw [strip, ← List.reverse_append, List.takeWhile_append_dropWhile, List.reverse_reverse]
    refine ⟨⟨cs.takeWhile p, ((cs.dropWhile p).reverse.takeWhile p).reverse, ?_, fun c outside => ?_⟩,
      fun c begins => ?_, fun c => getLast_strip⟩
    · rw [List.append_assoc, back, front]
    · rcases List.mem_append.1 outside with ahead | behind
      · exact List.all_eq_true.1 List.all_takeWhile c ahead
      · exact List.all_eq_true.1 List.all_takeWhile c (List.mem_reverse.1 behind)
    · have first : (cs.dropWhile p).head? = some c := by
        rw [← back, List.head?_append, begins]
        rfl
      exact head_dropWhile first
  · rintro ⟨⟨before, after, rfl, outside⟩, begins, ends⟩
    have ahead : ∀ c ∈ before, p c = true := fun c member => outside c (List.mem_append_left after member)
    have behind : ∀ c ∈ after.reverse, p c = true := fun c member =>
      outside c (List.mem_append_right before (List.mem_reverse.1 member))
    rw [strip, List.append_assoc, List.dropWhile_append_of_pos ahead]
    cases core with
    | nil =>
      rw [List.nil_append, dropWhile_eq_nil_iff.2 (List.all_eq_true.2 fun c member => behind c (List.mem_reverse.2 member))]
      rfl
    | cons c core =>
      have kept : (c :: core ++ after).dropWhile p = c :: core ++ after := dropWhile_of_head fun d first => begins d first
      have last (d : Char) (first : (c :: core).reverse.head? = some d) : p d = false :=
        ends d (List.head?_reverse.symm.trans first)
      rw [kept, List.reverse_append, List.dropWhile_append_of_pos behind, dropWhile_of_head last, List.reverse_reverse]

theorem isEmpty_trimText (s : String) : (trimText s).isEmpty = isBlankText s := by
  rw [Bool.eq_iff_iff, String.isEmpty_iff, isBlankText, ← strip_eq_nil_iff]
  exact String.ofList_eq_empty_iff

end Blank

end LeaseBroker
