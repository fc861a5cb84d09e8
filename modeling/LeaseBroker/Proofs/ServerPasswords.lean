import LeaseBroker.Proofs.RoleStatements
import LeaseBroker.Proofs.Requirements

/-!
The passwords of the logins on servers. A server learns of them by statements
that create a login or alter one, as the broker writes them; they are read back
here (`altered?`, `created?`), so that what a history of calls has made of the
accounts can be computed (`Accounts.after`).
-/
namespace LeaseBroker

open Template (pieces Piece render renderChars)

/-! ## Reading statements -/

namespace PasswordStatement

/-- What stands before a closing quote, with doubled quotes halved, and what comes after it. -/
def unquote (q : Char) : List Char → Option (List Char × List Char)
  | [] => none
  | [c] => if c = q then some ([], []) else none
  | c :: d :: cs =>
    if c ≠ q then (unquote q (d :: cs)).map fun read => (c :: read.1, read.2)
    else if d = q then (unquote q cs).map fun read => (q :: read.1, read.2)
    else some ([], d :: cs)

/-- A text without its doubling of a character, which may stand only in pairs. -/
def halve (q : Char) : List Char → Option (List Char)
  | [] => some []
  | [c] => if c = q then none else some [c]
  | c :: d :: cs =>
    if c ≠ q then (halve q (d :: cs)).map (c :: ·)
    else if d = q then (halve q cs).map (q :: ·)
    else none

/-- A quoted identifier, and what comes after it. -/
def identifier? : List Char → Option (List Char × List Char)
  | '"' :: cs => unquote '"' cs
  | _ => none

/-- A string literal, plain or with escapes, and what comes after it. -/
def literal? : List Char → Option (List Char × List Char)
  | '\'' :: cs => unquote '\'' cs
  | ' ' :: 'E' :: '\'' :: cs => do
    let (inner, rest) ← unquote '\'' cs
    return (← halve '\\' inner, rest)
  | _ => none

/-- The login and the password of a statement that begins with `lead` and has `between` between them. -/
def settings? (lead between sql : String) : Option (String × String) := do
  let cs ← Search.after? lead.toList sql.toList
  let (login, cs) ← identifier? cs
  let cs ← Search.after? between.toList cs
  let (password, _) ← literal? cs
  return (String.ofList login, String.ofList password)

/-- The login that a statement gives a new password, and that password. -/
def altered? : String → Option (String × String) := settings? "alter user " " with password "

/-- The login that a statement creates, and its password. -/
def created? : String → Option (String × String) := settings? "create role " " with login password "

/-! ### Reading back what is written -/

open Fragment (double identifierChars literalChars)

theorem unquote_double {q : Char} (cs : List Char) {rest : List Char} (ended : rest.head? ≠ some q) :
    unquote q (double q cs ++ q :: rest) = some (cs, rest) := by
  induction cs with
  | nil =>
    cases rest with
    | nil => simp [double, unquote]
    | cons d rest =>
      have other : d ≠ q := fun same => ended (congrArg some same)
      simp [double, unquote, other]
  | cons c cs ih =>
    by_cases own : c = q
    · subst own
      have doubled : double c (c :: cs) ++ c :: rest = c :: c :: (double c cs ++ c :: rest) := by simp [double]
      rw [doubled, unquote, ih]
      simp
    · have single : double q (c :: cs) ++ q :: rest = c :: (double q cs ++ q :: rest) := by simp [double, own]
      obtain ⟨d, tail, more⟩ : ∃ d tail, double q cs ++ q :: rest = d :: tail := by
        cases double q cs <;> exact ⟨_, _, rfl⟩
      rw [single, more, unquote, ← more, ih]
      simp [own]

theorem halve_double (q : Char) (cs : List Char) : halve q (double q cs) = some cs := by
  induction cs with
  | nil => rfl
  | cons c cs ih =>
    by_cases own : c = q
    · subst own
      have doubled : double c (c :: cs) = c :: c :: double c cs := by simp [double]
      rw [doubled, halve, ih]
      simp
    · have single : double q (c :: cs) = c :: double q cs := by simp [double, own]
      rw [single]
      cases more : double q cs with
      | nil =>
        rw [more] at ih
        cases ih
        simp [halve, own]
      | cons d tail =>
        rw [halve, ← more, ih]
        simp [own]

theorem double_comm {p q : Char} (other : p ≠ q) (cs : List Char) : double p (double q cs) = double q (double p cs) := by
  induction cs with
  | nil => rfl
  | cons c cs ih =>
    have first (r : Char) : double r (c :: cs) = double r [c] ++ double r cs := by simp [double]
    rw [first, first, Fragment.double_append, Fragment.double_append, ih]
    congr 1
    by_cases own : c = p
    · subst own
      simp [double, other]
    · by_cases own' : c = q
      · subst own'
        simp [double, own]
      · simp [double, own, own']

theorem identifier?_identifierChars (cs : List Char) {rest : List Char} (ended : rest.head? ≠ some '"') :
    identifier? (identifierChars cs ++ rest) = some (cs.takeWhile (· ≠ '\x00'), rest) := by
  have quoted : identifierChars cs ++ rest = '"' :: (double '"' (cs.takeWhile (· ≠ '\x00')) ++ '"' :: rest) := by
    simp [identifierChars]
  rw [quoted, identifier?, unquote_double _ ended]

theorem literal?_literalChars (cs : List Char) {rest : List Char} (ended : rest.head? ≠ some '\'') :
    literal? (literalChars cs ++ rest) = some (cs, rest) := by
  by_cases escaped : '\\' ∈ cs
  · have quoted : literalChars cs ++ rest = ' ' :: 'E' :: '\'' :: (double '\'' (double '\\' cs) ++ '\'' :: rest) := by
      simp [literalChars, escaped, double_comm]
    rw [quoted, literal?, unquote_double _ ended]
    simp [halve_double]
  · have quoted : literalChars cs ++ rest = '\'' :: (double '\'' cs ++ '\'' :: rest) := by
      simp [literalChars, escaped]
    rw [quoted, literal?, unquote_double _ ended]

/-- The login of a name, as it stands in a statement: up to the first NUL. -/
def loginOf (name : String) : String := String.ofList (name.toList.takeWhile (· ≠ '\x00'))

/-- What is written of a login and a password is read back. -/
theorem settings?_written (lead between : String) (user password : String) (options : List Char)
    (spaced : ∃ bs, between.toList = ' ' :: bs) (ended : options.head? ≠ some '\'') :
    settings? lead between (String.ofList (lead.toList ++ (Fragment.identifier user).chars ++ between.toList ++
      (Fragment.literal password).chars ++ options)) = some (loginOf user, password) := by
  have spaced (rest : List Char) : (between.toList ++ rest).head? ≠ some '"' := by
    obtain ⟨bs, split⟩ := spaced
    rw [split]
    nofun
  have led (front back : List Char) : Search.after? front (front ++ back) = some back :=
    Search.after?_eq_some_iff.2 rfl
  simp only [settings?, String.toList_ofList, List.append_assoc, led, Fragment.chars]
  simp only [Option.bind_eq_bind, Option.bind_some, identifier?_identifierChars _ (spaced _), led,
    literal?_literalChars _ ended]
  simp [loginOf]

theorem settings?_apart {lead between sql : String} (apart : Search.after? lead.toList sql.toList = none) :
    settings? lead between sql = none := by
  rw [settings?, apart]
  rfl

/-! ### What the broker writes -/

/-- Slots for a login and its password. -/
def bindings (user password : String) : Bindings := (Bindings.empty.identifier "user" user).literal "password" password

theorem fill_bindings (user password : String) :
    (Piece.slot "user".toList).fill (bindings user password) = (Fragment.identifier user).chars ∧
      (Piece.slot "password".toList).fill (bindings user password) = (Fragment.literal password).chars := by
  constructor
  · refine fill_slot "user" (by simp [slotNames]) ?_
    simp [bindings, Bindings.get?, Bindings.identifier, Bindings.literal, Bindings.empty, List.lookup_cons]
  · refine fill_slot "password" (by simp [slotNames]) ?_
    simp [bindings, Bindings.get?, Bindings.literal]

theorem altered?_updatePassword (user password : String) :
    altered? (render Statements.updatePassword (bindings user password)) = some (loginOf user, password) := by
  obtain ⟨login, secret⟩ := fill_bindings user password
  rw [altered?, render, renderChars, pieces_updatePassword]
  simp only [List.flatMap_cons, List.flatMap_nil]
  rw [login, secret]
  have written := settings?_written "alter user " " with password " user password [] ⟨_, String.toList_ofList⟩
    (by decide)
  simpa only [Piece.fill, List.append_assoc, List.append_nil] using written

theorem created?_createManagementRole (user password : String) :
    created? (render Statements.createManagementRole (bindings user password)) = some (loginOf user, password) := by
  obtain ⟨login, secret⟩ := fill_bindings user password
  rw [created?, render, renderChars, pieces_createManagementRole]
  simp only [List.flatMap_cons, List.flatMap_nil]
  rw [login, secret]
  have options : " createrole nocreatedb noinherit".toList = ' ' :: _ := String.toList_ofList
  have written := settings?_written "create role " " with login password " user password
    " createrole nocreatedb noinherit".toList ⟨_, String.toList_ofList⟩ (by simp [options])
  simpa only [Piece.fill, List.append_assoc, List.append_nil] using written

/-- A statement that creates a role alters none. -/
theorem altered?_createManagementRole (user password : String) :
    altered? (render Statements.createManagementRole (bindings user password)) = none := by
  obtain ⟨rest, parts⟩ : ∃ rest, pieces Statements.createManagementRole.toList = .plain "create role ".toList :: rest :=
    ⟨_, pieces_createManagementRole⟩
  have apart (back : List Char) : Search.after? "alter user ".toList ("create role ".toList ++ back) = none := by
    have first : "alter user ".toList = 'a' :: _ := String.toList_ofList
    have first' : "create role ".toList = 'c' :: _ := String.toList_ofList
    rw [first, first', List.cons_append, Search.after?, if_neg (by decide)]
  have chars : (render Statements.createManagementRole (bindings user password)).toList =
      "create role ".toList ++ rest.flatMap (·.fill (bindings user password)) := by
    refine String.toList_ofList.trans ?_
    rw [renderChars, parts, List.flatMap_cons]
    rfl
  refine settings?_apart ?_
  rw [chars]
  exact apart _

end PasswordStatement

/-! ## Accounts -/

/-- Where a server is. -/
structure Endpoint where
  host : String
  port : UInt16
  deriving DecidableEq, Repr

def Target.endpoint (t : Target) : Endpoint := ⟨t.host, t.port⟩

def ClusterRecord.endpoint (c : ClusterRecord) : Endpoint := ⟨c.host, c.port⟩

/-- The passwords of logins on servers; who has none cannot log in. -/
def Accounts := Endpoint → String → Option String

namespace Accounts

open PasswordStatement

def set (a : Accounts) (place : Endpoint) (login password : String) : Accounts :=
  fun e l => if e = place ∧ l = login then some password else a e l

/-- A new login; one that is there is not created again. -/
def add (a : Accounts) (place : Endpoint) (login password : String) : Accounts :=
  if (a place login).isSome then a else a.set place login password

/-- What a statement makes of the accounts that a server has accepted. -/
def hear (a : Accounts) (place : Endpoint) (sql : String) : Accounts :=
  match altered? sql, created? sql with
  | some (login, password), _ => a.set place login password
  | none, some (login, password) => a.add place login password
  | none, none => a

/-- The statement that an event ran in a transaction. -/
def ran? (t : Transaction) : Event → Option String
  | ⟨_, .run u sql, .ok _⟩ => if u = t then some sql else none
  | _ => none

/-- The statements that take effect with an event: one that was run by itself, or all of a transaction. -/
def effects (earlier : List Event) : Event → List (Endpoint × String)
  | ⟨_, .execute c sql, .ok _⟩ => [(c.target.endpoint, sql)]
  | ⟨_, .commit t, .ok _⟩ => (earlier.filterMap (ran? t)).reverse.map (t.connection.target.endpoint, ·)
  | _ => []

/-- The accounts after a history, the latest first. -/
def after (a : Accounts) : List Event → Accounts
  | [] => a
  | e :: earlier => (effects earlier e).foldl (fun b told => b.hear told.1 told.2) (a.after earlier)

/-- Every password is still the same, but perhaps those of some logins on one server. -/
def KeptBut (place : Endpoint) (logins : List String) (a b : Accounts) : Prop :=
  ∀ e l p, a e l = some p → b e l = some p ∨ e = place ∧ l ∈ logins

/-- Every password is still the same. -/
def Kept (a b : Accounts) : Prop := ∀ e l p, a e l = some p → b e l = some p

variable {a b : Accounts} {place : Endpoint} {login other password : String}

@[simp] theorem set_self : a.set place login password place login = some password := if_pos ⟨rfl, rfl⟩

theorem set_of_ne {e : Endpoint} (apart : ¬(e = place ∧ other = login)) :
    a.set place login password e other = a e other := if_neg apart

theorem Kept.refl (a : Accounts) : a.Kept a := fun _ _ _ => id

theorem kept_add : a.Kept (a.add place login password) := by
  intro e l p had
  unfold add
  cases there : a place login with
  | some q => exact had
  | none =>
    refine (set_of_ne ?_).trans had
    rintro ⟨rfl, rfl⟩
    cases there.symm.trans had

theorem Kept.set (kept : a.Kept b) : a.KeptBut place [login] (b.set place login password) := by
  intro e l p had
  by_cases own : e = place ∧ l = login
  · exact .inr ⟨own.1, List.mem_singleton.2 own.2⟩
  · exact .inl ((set_of_ne own).trans (kept e l p had))

theorem KeptBut.set {logins : List String} (kept : a.KeptBut place logins b) :
    a.KeptBut place (login :: logins) (b.set place login password) := by
  intro e l p had
  by_cases own : e = place ∧ l = login
  · exact .inr ⟨own.1, own.2 ▸ List.mem_cons_self⟩
  · refine (kept e l p had).imp (fun same => (set_of_ne own).trans same) fun inside => ⟨inside.1, ?_⟩
    exact List.mem_cons_of_mem _ inside.2

theorem hear_updatePassword (a : Accounts) (place : Endpoint) (user password : String) :
    a.hear place (render Statements.updatePassword (bindings user password)) = a.set place (loginOf user) password := by
  rw [hear, altered?_updatePassword]

theorem hear_createManagementRole (a : Accounts) (place : Endpoint) (user password : String) :
    a.hear place (render Statements.createManagementRole (bindings user password)) =
      a.add place (loginOf user) password := by
  rw [hear, altered?_createManagementRole, created?_createManagementRole]

end Accounts

end LeaseBroker
