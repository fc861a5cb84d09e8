import LeaseBroker.Names
import LeaseBroker.Proofs.SqlTokens
import Mathlib.Data.List.TakeWhile

/-!
Which roles logins are taken for. A server reads a quoted name up to its first
NUL (`principal`), and a display name may hold one. Where the part of it that goes
into the login does not, the login is taken for itself, and the UUID in it tells
it from all others. Where it does, the login ends there, before the UUID, and is
one with every login that begins so (`principal_login`, `principal_login_eq_iff`).
-/
namespace LeaseBroker.Names

/-- The part of a display name that goes into a login. -/
def kept (displayName : String) : List Char := Octets.fitting displayLimit displayName.toList

def untilNul (cs : List Char) : List Char := cs.takeWhile (· ≠ '\x00')

theorem plain_hexDigit (n : Nat) : (Uuid.hexDigit n).utf8Size = 1 ∧ Uuid.hexDigit n ≠ '\x00' := by
  have all : ∀ a : Fin 16, (Nat.digitChar a).utf8Size = 1 ∧ Nat.digitChar a ≠ '\x00' := by decide
  exact all ⟨n % 16, Nat.mod_lt _ (by decide)⟩

theorem plain_chars (id : Uuid) : ∀ c ∈ id.chars, c.utf8Size = 1 ∧ c ≠ '\x00' := by
  have digits (count n : Nat) : ∀ c ∈ Uuid.hexDigits count n, c.utf8Size = 1 ∧ c ≠ '\x00' := by
    induction count generalizing n with
    | zero => nofun
    | succ count ih =>
      intro c member
      rcases List.mem_append.1 member with before | last
      · exact ih _ c before
      · exact (List.mem_singleton.1 last) ▸ plain_hexDigit n
  have grouped (ds : List Char) (c : Char) (member : c ∈ Uuid.grouped ds) : c = '-' ∨ c ∈ ds := by
    simp only [Uuid.grouped, List.mem_append, List.mem_cons] at member
    grind [List.mem_of_mem_take, List.mem_of_mem_drop]
  intro c member
  rcases grouped _ c member with rfl | digit
  · decide
  · exact digits 32 id.toNat c digit

theorem size_of_plain {cs : List Char} (plain : ∀ c ∈ cs, c.utf8Size = 1) : Octets.size cs = cs.length := by
  induction cs with
  | nil => rfl
  | cons c cs ih =>
    rw [Octets.size_cons, plain c List.mem_cons_self, ih fun d member => plain d (List.mem_cons_of_mem _ member),
      List.length_cons, Nat.add_comm]

theorem size_kept_le (displayName : String) : Octets.size (kept displayName) ≤ displayLimit := Octets.size_fitting_le ..

theorem size_chars (id : Uuid) : Octets.size id.chars = 36 :=
  (size_of_plain fun c member => (plain_chars id c member).1).trans id.length_chars

/-- A login fits into what a server keeps, with its UUID as a whole. -/
theorem toList_login (displayName : String) (id : Uuid) :
    (login displayName id).toList = kept displayName ++ '-' :: id.chars := by
  have whole : (Octets.truncate displayName displayLimit ++ "-" ++ id.text).toList = kept displayName ++ '-' :: id.chars := by
    simp [Octets.truncate, kept, Uuid.text]
  have fits : Octets.size (kept displayName ++ '-' :: id.chars) ≤ identifierLimit := by
    have first := size_kept_le displayName
    have dash : ('-' : Char).utf8Size = 1 := by decide
    have limits : displayLimit = 26 ∧ identifierLimit = 63 := ⟨rfl, rfl⟩
    rw [Octets.size_append, Octets.size_cons, size_chars]
    omega
  rw [login, Octets.truncate, whole, String.toList_ofList, Octets.fitting_of_size_le fits]

theorem nul_mem_login (displayName : String) (id : Uuid) :
    '\x00' ∈ (login displayName id).toList ↔ '\x00' ∈ kept displayName := by
  have clean : '\x00' ∉ '-' :: id.chars := by
    intro member
    rcases List.mem_cons.1 member with same | later
    · exact absurd same (by decide)
    · exact (plain_chars id _ later).2 rfl
  rw [toList_login, List.mem_append]
  exact ⟨fun either => either.resolve_right clean, .inl⟩

theorem untilNul_of_not_mem {cs : List Char} (clean : '\x00' ∉ cs) : untilNul cs = cs := by
  refine List.takeWhile_eq_self_iff.2 fun c member => ?_
  exact decide_eq_true fun same => clean (same ▸ member)

theorem untilNul_append {cs : List Char} (ends : '\x00' ∈ cs) (ds : List Char) : untilNul (cs ++ ds) = untilNul cs := by
  induction cs with
  | nil => cases ends
  | cons c cs ih =>
    unfold untilNul at ih ⊢
    rw [List.cons_append, List.takeWhile_cons, List.takeWhile_cons]
    by_cases own : c = '\x00'
    · simp [own]
    · rw [ih (List.mem_of_ne_of_mem (Ne.symm own) ends)]

theorem size_untilNul_le (cs : List Char) : Octets.size (untilNul cs) ≤ Octets.size cs := by
  have whole : Octets.size (untilNul cs ++ cs.dropWhile (· ≠ '\x00')) = Octets.size cs :=
    congrArg Octets.size List.takeWhile_append_dropWhile
  rw [Octets.size_append] at whole
  omega

/-- The role that a server takes a name for, where it is written as an identifier. -/
def principal (name : String) : Option String :=
  match SqlLexer.lexFrom .between (Fragment.identifier name).chars with
  | some [.identifier value] => some (Octets.truncate value identifierLimit)
  | _ => none

theorem principal_eq (name : String) :
    principal name = some (Octets.truncate (String.ofList (untilNul name.toList)) identifierLimit) := by
  rw [principal, SqlLexer.lexFrom_chars]
  rfl

/-- A login is taken for itself, unless what it has of the display name ends at a NUL. -/
theorem principal_login (displayName : String) (id : Uuid) : principal (login displayName id) =
    some (if '\x00' ∈ kept displayName then String.ofList (untilNul (kept displayName)) else login displayName id) := by
  have fits : Octets.size (untilNul (login displayName id).toList) ≤ identifierLimit := by
    refine Nat.le_trans (size_untilNul_le _) ?_
    rw [login, Octets.truncate, String.toList_ofList]
    exact Octets.size_fitting_le ..
  rw [principal_eq, Octets.truncate, String.toList_ofList, Octets.fitting_of_size_le fits]
  split
  · rename_i ends
    rw [toList_login, untilNul_append ends]
  · rename_i clean
    rw [untilNul_of_not_mem (mt (nul_mem_login displayName id).1 clean), String.ofList_toList]

/-- What ends at a NUL is too short for a login. -/
theorem untilNul_ne_login (displayName displayName' : String) (id : Uuid) :
    String.ofList (untilNul (kept displayName)) ≠ login displayName' id := by
  intro same
  have sizes := congrArg (fun name => Octets.size name.toList) same
  simp only [String.toList_ofList, toList_login, Octets.size_append, Octets.size_cons, size_chars] at sizes
  have cut := Nat.le_trans (size_untilNul_le (kept displayName)) (size_kept_le displayName)
  have limit : displayLimit = 26 := rfl
  omega

theorem principal_login_eq_self_iff (displayName : String) (id : Uuid) :
    principal (login displayName id) = some (login displayName id) ↔ '\x00' ∉ kept displayName := by
  rw [principal_login, Option.some.injEq]
  split
  · rename_i ends
    exact iff_of_false (untilNul_ne_login displayName displayName id) (not_not_intro ends)
  · rename_i clean
    exact iff_of_true rfl clean

theorem login_inj {displayName displayName' : String} {id id' : Uuid} (same : login displayName id = login displayName' id') :
    id = id' := by
  have written := congrArg String.toList same
  rw [toList_login, toList_login] at written
  exact Uuid.chars_inj (List.cons.inj (List.append_inj' written (by simp [Uuid.length_chars])).2).2

/-- Logins with different UUIDs are taken for one role just where both end at a NUL, with the same before it. -/
theorem principal_login_eq_iff {displayName displayName' : String} {id id' : Uuid} (other : id ≠ id') :
    principal (login displayName id) = principal (login displayName' id') ↔
      '\x00' ∈ kept displayName ∧ '\x00' ∈ kept displayName' ∧ untilNul (kept displayName) = untilNul (kept displayName') := by
  rw [principal_login, principal_login, Option.some.injEq]
  by_cases ends : '\x00' ∈ kept displayName <;> by_cases ends' : '\x00' ∈ kept displayName' <;>
    simp only [ends, ends', if_true, if_false, true_and, false_and, and_false, iff_false]
  · exact ⟨fun same => String.ofList_injective same, congrArg String.ofList⟩
  · exact untilNul_ne_login _ _ _
  · exact fun same => untilNul_ne_login _ _ _ same.symm
  · exact fun same => other (login_inj same)

end LeaseBroker.Names
