import LeaseBroker.Template
import Mathlib.Data.List.Basic

/-!
How a template splits into plain texts and slots, said without a scanner. The
first opening braces end a plain text, the first closing ones after them end the
slot, and the rest splits in the same way (`Splits`). There is just one way, it
asks for no bindings, and what is rendered has the fragments in place of the
slots and everything else as it stands (`render_splits`). So what a fragment
holds is never read as a slot.
-/
namespace LeaseBroker

namespace Search

/-- A text is parted by the first occurrence of a pattern. -/
structure Leftmost (pat cs before after : List Char) : Prop where
  parted : cs = before ++ pat ++ after
  first (earlier later : List Char) : cs = earlier ++ pat ++ later → before.length ≤ earlier.length

theorem exists_leftmost {pat cs : List Char} (occurs : pat <:+: cs) : ∃ before after, Leftmost pat cs before after := by
  induction cs with
  | nil =>
    obtain rfl : pat = [] := List.infix_nil.1 occurs
    exact ⟨[], [], rfl, fun _ _ _ => Nat.zero_le _⟩
  | cons c cs ih =>
    by_cases now : pat <+: c :: cs
    · obtain ⟨after, parted⟩ := now
      exact ⟨[], after, parted.symm, fun _ _ _ => Nat.zero_le _⟩
    · obtain ⟨before, after, parted, first⟩ := ih ((List.infix_cons_iff.1 occurs).resolve_left now)
      refine ⟨c :: before, after, by rw [parted]; rfl, fun earlier later same => ?_⟩
      cases earlier with
      | nil => exact absurd ⟨later, same.symm⟩ now
      | cons d earlier => exact Nat.succ_le_succ (first earlier later (List.cons.inj same).2)

namespace Leftmost

variable {pat cs before after : List Char} {c d : Char}

theorem unique {before' after' : List Char} (h : Leftmost pat cs before after) (h' : Leftmost pat cs before' after') :
    before = before' ∧ after = after' := by
  have same : before ++ (pat ++ after) = before' ++ (pat ++ after') := by
    rw [← List.append_assoc, ← List.append_assoc, ← h.parted, ← h'.parted]
  have length : before.length = before'.length :=
    Nat.le_antisymm (h.first before' after' h'.parted) (h'.first before after h.parted)
  obtain ⟨heads, tails⟩ := List.append_inj same length
  exact ⟨heads, List.append_cancel_left tails⟩

/-- What begins with the pattern is parted at once. -/
theorem not_prefix (h : Leftmost pat cs (d :: before) after) : ¬pat <+: cs := by
  rintro ⟨later, parted⟩
  have short := h.first [] later parted.symm
  simp at short

theorem tail (h : Leftmost pat (c :: cs) (c :: before) after) : Leftmost pat cs before after := by
  refine ⟨(List.cons.inj h.parted).2, fun earlier later parted => ?_⟩
  have longer : c :: cs = c :: earlier ++ pat ++ later := congrArg (c :: ·) parted
  exact Nat.le_of_succ_le_succ (h.first (c :: earlier) later longer)

/-- The pattern occurs first where it does not occur in all before its last character. -/
theorem of_bare (parted : cs = before ++ pat ++ after) (bare : ¬pat <:+: (before ++ pat).dropLast) :
    Leftmost pat cs before after := by
  subst parted
  refine ⟨rfl, fun earlier later same => Nat.le_of_not_lt fun short => bare ?_⟩
  have reached : earlier ++ pat <+: before ++ pat ++ after := ⟨later, same.symm⟩
  have begins : (before ++ pat).dropLast <+: before ++ pat ++ after :=
    (List.dropLast_prefix _).trans (List.prefix_append _ _)
  have shorter : (earlier ++ pat).length ≤ (before ++ pat).dropLast.length := by
    rw [List.length_dropLast, List.length_append, List.length_append]
    omega
  have within : earlier ++ pat <+: (before ++ pat).dropLast := List.prefix_of_prefix_length_le reached begins shorter
  exact (List.suffix_append earlier pat).isInfix.trans within.isInfix

end Leftmost

end Search

namespace Template

open Search (Leftmost)

/-- The braces before a slot. -/
def opening : List Char := ['\x7b', '\x7b']

/-- The braces after it. -/
def closing : List Char := ['\x7d', '\x7d']

/-- A template splits at its slots: the first opening braces and the first closing ones after them make a slot. What is
    opened and not closed is plain, with everything before it since the last slot. -/
inductive Splits : List Char → List Piece → Prop
  | plain {cs : List Char} (unclosed : ∀ head tail, Leftmost opening cs head tail → ¬closing <:+: tail) :
      Splits cs [.plain cs]
  | slot {cs head tail inner rest : List Char} {ps : List Piece} (opened : Leftmost opening cs head tail)
      (closed : Leftmost closing tail inner rest) (later : Splits rest ps) : Splits cs (.plain head :: .slot inner :: ps)

namespace Splits

variable {cs : List Char} {ps : List Piece}

theorem exists_splits (cs : List Char) : ∃ ps, Splits cs ps := by
  by_cases slotted : ∃ head tail, Leftmost opening cs head tail ∧ closing <:+: tail
  · obtain ⟨head, tail, opened, closes⟩ := slotted
    obtain ⟨inner, rest, closed⟩ := Search.exists_leftmost closes
    have shorter : rest.length < cs.length := by
      rw [opened.parted, closed.parted]
      simp [opening]
      omega
    obtain ⟨ps, later⟩ := exists_splits rest
    exact ⟨_, .slot opened closed later⟩
  · exact ⟨_, .plain fun head tail opened closes => slotted ⟨head, tail, opened, closes⟩⟩
termination_by cs.length

theorem unique {ps' : List Piece} (h : Splits cs ps) (h' : Splits cs ps') : ps = ps' := by
  induction h generalizing ps' with
  | plain unclosed =>
    cases h' with
    | plain _ => rfl
    | slot opened closed _ => exact absurd ⟨_, _, closed.parted.symm⟩ (unclosed _ _ opened)
  | slot opened closed later ih =>
    cases h' with
    | plain unclosed => exact absurd ⟨_, _, closed.parted.symm⟩ (unclosed _ _ opened)
    | slot opened' closed' later' =>
      obtain ⟨rfl, rfl⟩ := opened.unique opened'
      obtain ⟨rfl, rfl⟩ := closed.unique closed'
      rw [ih later']

/-- The pieces put together are the template. -/
theorem source (h : Splits cs ps) : ps.flatMap Piece.source = cs := by
  induction h with
  | plain _ => simp [Piece.source]
  | slot opened closed later ih =>
    rw [opened.parted, closed.parted, List.flatMap_cons, List.flatMap_cons, ih]
    simp [Piece.source, opening, closing]

end Splits

/-! ## The scanner -/

/-- The braces that the scanner looks for, inside a slot or outside. -/
def mark (inside : Bool) : List Char := if inside then closing else opening

/-- What it has read of a slot that is not closed. -/
def lead (inside : Bool) : List Char := if inside then opening else []

/-- The piece that ends at the braces. -/
def ended (inside : Bool) (cs : List Char) : Piece := if inside then .slot cs else .plain cs

theorem piecesFrom_nil (inside : Bool) (past : List Char) :
    piecesFrom inside past [] = [.plain (lead inside ++ past.reverse)] := by
  cases inside <;> rfl

theorem piecesFrom_mark (inside : Bool) (past cs : List Char) :
    piecesFrom inside past (mark inside ++ cs) = ended inside past.reverse :: piecesFrom (!inside) [] cs := by
  cases inside <;> simp [mark, opening, closing, piecesFrom, ended]

theorem piecesFrom_cons {inside : Bool} {c : Char} {cs : List Char} (unmarked : ¬mark inside <+: c :: cs)
    (past : List Char) : piecesFrom inside past (c :: cs) = piecesFrom inside (c :: past) cs := by
  rw [piecesFrom]
  · rintro rest rfl rfl rfl
    exact unmarked ⟨rest, rfl⟩
  · rintro rest rfl rfl rfl
    exact unmarked ⟨rest, rfl⟩

theorem piecesFrom_of_leftmost (inside : Bool) {cs before after : List Char}
    (h : Leftmost (mark inside) cs before after) (past : List Char) :
    piecesFrom inside past cs = ended inside (past.reverse ++ before) :: piecesFrom (!inside) [] after := by
  induction before generalizing cs past with
  | nil =>
    rw [h.parted, List.nil_append, piecesFrom_mark, List.append_nil]
  | cons c before ih =>
    obtain ⟨d, cs, rfl⟩ := List.exists_cons_of_ne_nil (l := cs) (by rw [h.parted]; simp)
    obtain ⟨rfl, -⟩ := List.cons.inj h.parted
    rw [piecesFrom_cons h.not_prefix, ih h.tail, List.reverse_cons, List.append_assoc]
    rfl

theorem piecesFrom_of_unmarked (inside : Bool) {cs : List Char} (h : ¬mark inside <:+: cs) (past : List Char) :
    piecesFrom inside past cs = [.plain (lead inside ++ past.reverse ++ cs)] := by
  induction cs generalizing past with
  | nil => rw [piecesFrom_nil, List.append_nil]
  | cons c cs ih =>
    obtain ⟨now, later⟩ := not_or.1 (mt List.infix_cons_iff.2 h)
    rw [piecesFrom_cons now, ih later, List.reverse_cons]
    simp

/-- What is rendered is what the slots are filled with, and everything else as it stands. -/
theorem Splits.rendered {cs : List Char} {ps : List Piece} (h : Splits cs ps) (b : Bindings) :
    renderChars cs b = ps.flatMap (·.fill b) := by
  unfold renderChars pieces
  induction h with
  | @plain cs unclosed =>
    by_cases opens : opening <:+: cs
    · -- The scanner has a plain piece of its own for what is opened and not closed.
      obtain ⟨head, tail, opened⟩ := Search.exists_leftmost opens
      have ends := piecesFrom_of_unmarked true (unclosed head tail opened) []
      rw [piecesFrom_of_leftmost false opened [], Bool.not_false, ends]
      simp [ended, lead, Piece.fill, opened.parted]
    · rw [piecesFrom_of_unmarked false opens []]
      simp [lead]
  | slot opened closed later ih =>
    rw [piecesFrom_of_leftmost false opened [], Bool.not_false,
      piecesFrom_of_leftmost true closed [], Bool.not_true, List.flatMap_cons, List.flatMap_cons, ih]
    rfl

/-- Of more than two braces the first two open a slot, and the first two close it. -/
example : pieces "\x7b\x7b\x7ba\x7d\x7d\x7d".toList = [.plain [], .slot "\x7ba".toList, .plain "\x7d".toList] := by
  decide +kernel

/-- There is just one way to split a template, and nothing needs to be bound for it. The pieces put together are the
    template, and with the slots filled they are what is rendered, so that nothing is read again. A template none of whose
    slots is bound is rendered as it stands. -/
theorem render_splits (template : String) :
    ∃ ps, (∀ ps', Splits template.toList ps' ↔ ps' = ps) ∧ ps.flatMap Piece.source = template.toList ∧
      (∀ b, (render template b).toList = ps.flatMap (·.fill b)) ∧
      ∀ b : Bindings, (∀ inner, .slot inner ∈ ps → b.get? (Piece.slotName inner) = none) →
        render template b = template := by
  obtain ⟨ps, splits⟩ := Splits.exists_splits template.toList
  have rendered (b : Bindings) : (render template b).toList = ps.flatMap (·.fill b) := by
    rw [render, String.toList_ofList, splits.rendered b]
  refine ⟨ps, fun ps' => ⟨fun splits' => splits'.unique splits, fun same => same ▸ splits⟩, splits.source, rendered,
    fun b unbound => String.toList_injective ?_⟩
  have unfilled (p : Piece) (member : p ∈ ps) : p.fill b = p.source := by
    cases p with
    | plain cs => rfl
    | slot inner => simp only [Piece.fill, unbound inner member]
  rw [rendered, List.flatMap_congr unfilled, splits.source]

/-- A template that ends with an open slot. -/
def openTemplate : String := "drop \x7b\x7b user \x7d\x7d of \x7b\x7bhost"

/-- What fills the slot is written like a slot that is bound. -/
theorem render_splits_open : ∃ ps, Splits openTemplate.toList ps ∧ .slot " user ".toList ∈ ps ∧
    render openTemplate [("host", .identifier "db")] = openTemplate ∧
    (render openTemplate [("user", .identifier "\x7b\x7bhost\x7d\x7d"), ("host", .identifier "db")]).toList =
      "drop ".toList ++ (Fragment.identifier "\x7b\x7bhost\x7d\x7d").chars ++ " of \x7b\x7bhost".toList := by
  obtain ⟨ps, unique, -, rendered, unbound⟩ := render_splits openTemplate
  have opened : Leftmost opening openTemplate.toList "drop ".toList " user \x7d\x7d of \x7b\x7bhost".toList :=
    .of_bare (by decide +kernel) (by decide +kernel)
  have closed : Leftmost closing " user \x7d\x7d of \x7b\x7bhost".toList " user ".toList " of \x7b\x7bhost".toList :=
    .of_bare (by decide +kernel) (by decide +kernel)
  have unclosed : ¬closing <:+: " of \x7b\x7bhost".toList := by decide +kernel
  have rest : Splits " of \x7b\x7bhost".toList [.plain " of \x7b\x7bhost".toList] := by
    refine .plain fun head tail parted closes => unclosed ?_
    rw [parted.parted]
    exact closes.trans (List.suffix_append (head ++ opening) tail).isInfix
  have splits := Splits.slot opened closed rest
  obtain rfl := (unique _).1 splits
  refine ⟨_, splits, by simp, unbound _ (fun inner member => ?_), rendered _⟩
  obtain rfl : inner = " user ".toList := by simpa using member
  decide +kernel

end Template

end LeaseBroker
