/-!
# Finding texts in texts

Occurrence, removal of a leading part, and cutting at a separator, on lists of
characters. Cutting is undone by joining.
-/

namespace LeaseBroker.Search

/-- Whether `pat` occurs in `cs`; the empty pattern occurs everywhere. -/
def occurs (pat : List Char) : List Char → Bool
  | [] => pat.isEmpty
  | c :: cs => pat.isPrefixOf (c :: cs) || occurs pat cs

def contains (text pat : String) : Bool := occurs pat.toList text.toList

/-- What follows `lead` in a list that begins with it. -/
def after? : List Char → List Char → Option (List Char)
  | [], cs => some cs
  | _ :: _, [] => none
  | l :: ls, c :: cs => if l = c then after? ls cs else none

/-- Cuts at every `sep`. A text without it is one piece. -/
def cut (sep : Char) : List Char → List (List Char)
  | [] => [[]]
  | c :: cs =>
    if c = sep then [] :: cut sep cs
    else match cut sep cs with
      | [] => [[c]]
      | p :: ps => (c :: p) :: ps

/-- Writes the pieces with `sep` between them. -/
def join (sep : String) : List String → String
  | [] => ""
  | [s] => s
  | s :: rest => s ++ sep ++ join sep rest

theorem after?_eq_some_iff {lead cs rest : List Char} : after? lead cs = some rest ↔ cs = lead ++ rest := by
  induction lead generalizing cs with
  | nil => simp [after?]
  | cons l ls ih =>
    cases cs with
    | nil => simp [after?]
    | cons c cs =>
      by_cases h : l = c
      · simp [after?, h, ih]
      · simp [after?, h, Ne.symm h]

theorem cut_ne_nil (sep : Char) (cs : List Char) : cut sep cs ≠ [] := by
  cases cs with
  | nil => simp [cut]
  | cons c cs =>
    rw [cut]
    split
    · simp
    · split <;> simp

/-- No piece holds the separator. -/
theorem not_mem_cut {sep : Char} {cs p : List Char} (h : p ∈ cut sep cs) : sep ∉ p := by
  induction cs generalizing p with
  | nil => simp_all [cut]
  | cons c cs ih =>
    rw [cut] at h
    split at h
    · rcases List.mem_cons.1 h with rfl | h
      · simp
      · exact ih h
    · rename_i hc
      split at h
      · simp_all [Ne.symm hc]
      · rename_i q qs hq
        rcases List.mem_cons.1 h with rfl | h
        · have := ih (p := q) (by simp [hq])
          simp [Ne.symm hc, this]
        · exact ih (by simp [hq, h])

theorem cut_of_not_mem {sep : Char} {cs : List Char} (bare : sep ∉ cs) : cut sep cs = [cs] := by
  induction cs with
  | nil => rfl
  | cons c cs ih =>
    have other : c ≠ sep := fun same => bare (same ▸ List.mem_cons_self)
    rw [cut, if_neg other, ih fun later => bare (List.mem_cons_of_mem c later)]

theorem cut_append {sep : Char} {piece cs : List Char} (bare : sep ∉ piece) :
    cut sep (piece ++ sep :: cs) = piece :: cut sep cs := by
  induction piece with
  | nil => rw [List.nil_append, cut, if_pos rfl]
  | cons c piece ih =>
    have other : c ≠ sep := fun same => bare (same ▸ List.mem_cons_self)
    rw [List.cons_append, cut, if_neg other, ih fun later => bare (List.mem_cons_of_mem c later)]

theorem toList_join_cons (first next : String) (rest : List String) :
    (join "/" (first :: next :: rest)).toList = first.toList ++ '/' :: (join "/" (next :: rest)).toList := by
  simp [join]

/-- What is joined at slashes is cut there into its parts. -/
theorem cut_join {first : String} {rest : List String} (bare : ∀ part ∈ first :: rest, '/' ∉ part.toList) :
    cut '/' (join "/" (first :: rest)).toList = (first :: rest).map String.toList := by
  induction rest generalizing first with
  | nil => exact cut_of_not_mem (bare first List.mem_cons_self)
  | cons next rest ih =>
    rw [toList_join_cons, cut_append (bare first List.mem_cons_self), ih fun part later => bare part (List.mem_cons_of_mem first later)]
    rfl

/-- What was cut at slashes is joined there again. -/
theorem join_cut (cs : List Char) : join "/" ((cut '/' cs).map String.ofList) = String.ofList cs := by
  induction cs with
  | nil => rfl
  | cons c cs ih =>
    obtain ⟨piece, pieces, cuts⟩ := List.exists_cons_of_ne_nil (cut_ne_nil '/' cs)
    rw [cuts] at ih
    refine String.toList_injective ?_
    replace ih := congrArg String.toList ih
    rw [cut, cuts]
    by_cases slash : c = '/'
    · rw [if_pos slash, slash]
      simp only [List.map_cons, toList_join_cons] at ih ⊢
      rw [ih]
      simp
    · rw [if_neg slash]
      cases pieces with
      | nil => simpa [join] using congrArg (c :: ·) ih
      | cons next rest =>
        simp only [List.map_cons, toList_join_cons] at ih ⊢
        simpa using congrArg (c :: ·) ih

/-- A text that is joined begins as its first part does. -/
theorem head?_join {first : String} {rest : List String} (filled : first ≠ "") :
    (join "/" (first :: rest)).toList.head? = first.toList.head? := by
  cases rest with
  | nil => rfl
  | cons next rest =>
    rw [toList_join_cons, List.head?_append]
    cases chars : first.toList with
    | nil => exact absurd (String.toList_injective chars) filled
    | cons c cs => rfl

/-- It ends as its last part does. -/
theorem getLast?_join {first : String} {rest : List String} (filled : ∀ part ∈ first :: rest, part ≠ "") :
    ∃ part ∈ first :: rest, ∃ c, part.toList.getLast? = some c ∧ (join "/" (first :: rest)).toList.getLast? = some c := by
  induction rest generalizing first with
  | nil =>
    cases last : first.toList.getLast? with
    | none => exact absurd (String.toList_injective (List.getLast?_eq_none_iff.1 last)) (filled first List.mem_cons_self)
    | some c => exact ⟨first, List.mem_cons_self, c, last, last⟩
  | cons next rest ih =>
    obtain ⟨part, member, c, last, whole⟩ := ih fun part later => filled part (List.mem_cons_of_mem first later)
    refine ⟨part, List.mem_cons_of_mem first member, c, last, ?_⟩
    rw [toList_join_cons, List.getLast?_append, List.getLast?_cons, whole]
    rfl

end LeaseBroker.Search
