import LeaseBroker.Statements
import Mathlib.Data.List.Forall2

/-!
How a server takes statements apart. The lexer (`lex`) reads words, a few marks,
quoted identifiers with their quotes doubled, and string literals: plain ones, in
which a backslash is a character like others, and escape strings. It refuses what
it does not know, comments and numbers among it, so that what it accepts is read
as a server reads it. It is an automaton over characters (`step`), so texts are
lexed where they are put together (`drive_append`).

A fragment is one token whatever its value is (`drive_chars`). A template is lexed
with its slots as holes (`parts`), and if that succeeds, filling the slots fills
the holes and changes nothing else (`lexFrom_pieces`).
-/
namespace LeaseBroker

inductive Token where
  /-- A key word or a bare name, in lower case. -/
  | word (text : String)
  | mark (c : Char)
  | identifier (value : String)
  | literal (value : String)
  deriving DecidableEq, Repr

namespace SqlLexer

/-! ## The lexer -/

/-- What stands between quotes. -/
inductive Quoting where
  | identifier
  | plain
  | escaping
  deriving DecidableEq, Repr

namespace Quoting

def quote : Quoting → Char
  | identifier => '"'
  | plain => '\''
  | escaping => '\''

def token : Quoting → List Char → Token
  | identifier, value => .identifier (String.ofList value)
  | plain, value => .literal (String.ofList value)
  | escaping, value => .literal (String.ofList value)

end Quoting

/-- Where the lexer is, with the characters of the token so far in reverse. -/
inductive State where
  | between
  | word (past : List Char)
  | quoted (k : Quoting) (past : List Char)
  /-- After a quote, which ends the token unless another one follows. -/
  | closing (k : Quoting) (past : List Char)
  /-- After a backslash in an escape string. -/
  | escape (past : List Char)
  deriving DecidableEq, Repr

def beginsWord (c : Char) : Bool := c.isAlpha || c == '_'

def continuesWord (c : Char) : Bool := beginsWord c || c.isDigit || c == '$'

def wordToken (past : List Char) : Token := .word (String.ofList (past.reverse.map Char.toLower))

/-- The character that a backslash and `c` stand for. Other escapes are not known here, numbers among them. -/
def escaped? : Char → Option Char
  | '\\' => some '\\'
  | 'b' => some '\x08'
  | 'f' => some '\x0c'
  | 'n' => some '\n'
  | 'r' => some '\r'
  | 't' => some '\t'
  | _ => none

/-- What begins with a character between tokens. A line break is not known here, since literals go on after it. -/
def open? (c : Char) : Option (List Token × State) :=
  if c = ' ' then some ([], .between)
  else if c = '"' then some ([], .quoted .identifier [])
  else if c = '\'' then some ([], .quoted .plain [])
  else if c ∈ [',', '(', ')', ';'] then some ([.mark c], .between)
  else if beginsWord c then some ([], .word [c])
  else none

def step : State → Char → Option (List Token × State)
  | .between, c => open? c
  | .word past, c =>
    if continuesWord c then some ([], .word (c :: past))
    else if c = '\'' then (if past = ['E'] ∨ past = ['e'] then some ([], .quoted .escaping []) else none)
    -- A quote right after a word may make it a prefix.
    else if c = '"' then none
    else (open? c).map fun (ts, s) => (wordToken past :: ts, s)
  | .quoted k past, c =>
    if c = k.quote then some ([], .closing k past)
    else if k = .escaping ∧ c = '\\' then some ([], .escape past)
    else some ([], .quoted k (c :: past))
  | .closing k past, c =>
    if c = k.quote then some ([], .quoted k (c :: past))
    else (open? c).map fun (ts, s) => (k.token past.reverse :: ts, s)
  | .escape past, c => (escaped? c).map fun d => ([], .quoted .escaping (d :: past))

/-- The last token, where a text may end. -/
def finish : State → Option (List Token)
  | .between => some []
  | .word past => some [wordToken past]
  | .closing k past => some [k.token past.reverse]
  | .quoted .. => none
  | .escape _ => none

/-- The tokens that end within a text, and where the lexer is after it. -/
def drive : State → List Char → Option (List Token × State)
  | s, [] => some ([], s)
  | s, c :: cs => do
    let (ts, s) ← step s c
    let (us, s) ← drive s cs
    return (ts ++ us, s)

def lexFrom (s : State) (cs : List Char) : Option (List Token) := do
  let (ts, s) ← drive s cs
  let us ← finish s
  return ts ++ us

/-- The tokens of a statement. -/
def lex (sql : String) : Option (List Token) := lexFrom .between sql.toList

theorem drive_append (s : State) (cs ds : List Char) :
    drive s (cs ++ ds) = (drive s cs).bind fun r => (drive r.2 ds).map fun r' => (r.1 ++ r'.1, r'.2) := by
  induction cs generalizing s with
  | nil => simp [drive]
  | cons c cs ih =>
    simp only [List.cons_append, drive]
    cases step s c with
    | none => rfl
    | some r =>
      simp only [Option.bind_eq_bind, Option.bind_some, ih]
      cases drive r.2 cs with
      | none => rfl
      | some r' =>
        simp only [Option.bind_some, Option.pure_def]
        cases drive r'.2 ds <;> simp

theorem lexFrom_append {s s' : State} {cs : List Char} {ts : List Token} (read : drive s cs = some (ts, s'))
    (ds : List Char) : lexFrom s (cs ++ ds) = (lexFrom s' ds).map (ts ++ ·) := by
  unfold lexFrom
  rw [drive_append, read]
  simp only [Option.bind_some, Option.bind_eq_bind]
  cases drive s' ds with
  | none => rfl
  | some r =>
    simp only [Option.map_some, Option.bind_some]
    cases finish r.2 <;> simp

/-- A quote that ends a token leaves the lexer between tokens, if no other quote follows. -/
theorem lexFrom_closing {k : Quoting} {past cs : List Char} (apart : ∀ c, cs.head? = some c → c ≠ k.quote) :
    lexFrom (.closing k past) cs = (lexFrom .between cs).map (k.token past.reverse :: ·) := by
  cases cs with
  | nil => rfl
  | cons c cs =>
    unfold lexFrom drive
    rw [show step (.closing k past) c = _ from if_neg (apart c rfl), show step .between c = open? c from rfl]
    cases open? c with
    | none => rfl
    | some r =>
      simp only [Option.map_some, Option.bind_eq_bind, Option.bind_some]
      cases drive r.2 cs with
      | none => rfl
      | some r' =>
        simp only [Option.bind_some, Option.pure_def]
        cases finish r'.2 <;> rfl

/-! ## Fragments -/

open Fragment (double double_append)

/-- How a value is written between its quotes. -/
def Quoting.written : Quoting → List Char → List Char
  | identifier, cs => double '"' cs
  | plain, cs => double '\'' cs
  | escaping, cs => double '\\' (double '\'' cs)

theorem Quoting.written_cons (k : Quoting) (c : Char) (cs : List Char) :
    k.written (c :: cs) = k.written [c] ++ k.written cs := by
  have first (q : Char) : double q (c :: cs) = double q [c] ++ double q cs := double_append q [c] cs
  cases k <;> simp only [written, first, double_append]

theorem drive_written_one (k : Quoting) (past : List Char) (c : Char) :
    drive (.quoted k past) (k.written [c]) = some ([], .quoted k (c :: past)) := by
  by_cases own : c = k.quote
  · subst own
    cases k <;> rfl
  · have single : double k.quote [c] = [c] := Fragment.double_eq_self (by simpa using Ne.symm own)
    cases k with
    | identifier => simp_all [Quoting.written, Quoting.quote, drive, step]
    | plain => simp_all [Quoting.written, Quoting.quote, drive, step]
    | escaping =>
      by_cases backslash : c = '\\'
      · subst backslash
        rfl
      · have single' : double '\\' [c] = [c] := Fragment.double_eq_self (by simpa using Ne.symm backslash)
        simp_all [Quoting.written, Quoting.quote, drive, step]

/-- A value is read character by character, however its quotes and backslashes follow one another. -/
theorem drive_written (k : Quoting) (past cs : List Char) :
    drive (.quoted k past) (k.written cs) = some ([], .quoted k (cs.reverse ++ past)) := by
  induction cs generalizing past with
  | nil => cases k <;> rfl
  | cons c cs ih =>
    rw [Quoting.written_cons, drive_append, drive_written_one]
    simp [ih]

/-- The token that a fragment is to be. A name ends at its first NUL. -/
def token : Fragment → Token
  | .identifier name => .identifier (String.ofList (name.toList.takeWhile (· ≠ '\x00')))
  | .literal value => .literal value

/-- A fragment is one token, of which the last quote is read when all of it is. -/
theorem drive_chars (f : Fragment) :
    ∃ k past, drive .between f.chars = some ([], .closing k past) ∧ k.token past.reverse = token f := by
  have closed (k : Quoting) (cs : List Char) :
      drive (.quoted k []) (k.written cs ++ [k.quote]) = some ([], .closing k cs.reverse) := by
    rw [drive_append, drive_written]
    simp [drive, step]
  have opened (k : Quoting) (cs ds : List Char) (s : State) (begins : drive s ds = some ([], .quoted k [])) :
      drive s (ds ++ (k.written cs ++ [k.quote])) = some ([], .closing k cs.reverse) := by
    rw [drive_append, begins]
    simp [closed]
  cases f with
  | identifier name =>
    refine ⟨.identifier, _, opened .identifier _ ['"'] .between rfl, ?_⟩
    simp [Quoting.token, token]
  | literal value =>
    show ∃ k past, drive .between (Fragment.literalChars value.toList) = _ ∧ _
    unfold Fragment.literalChars
    split
    · refine ⟨.escaping, _, opened .escaping value.toList [' ', 'E', '\''] .between rfl, ?_⟩
      simp [Quoting.token, token]
    · refine ⟨.plain, _, opened .plain value.toList ['\''] .between rfl, ?_⟩
      simp [Quoting.token, token]

theorem lexFrom_chars (f : Fragment) : lexFrom .between f.chars = some [token f] := by
  obtain ⟨k, past, driven, same⟩ := drive_chars f
  simp [lexFrom, driven, finish, same]

/-! ## Templates -/

open Template (Piece pieces render renderChars)

/-- A part of a template: a token of its own, or a slot. -/
inductive Part where
  | token (t : Token)
  | slot (name : String)
  deriving DecidableEq, Repr

/-- What follows a slot does not begin with a quote, nor with another slot. -/
def apart : List Piece → Bool
  | [] => true
  | .plain [] :: rest => apart rest
  | .plain (c :: _) :: _ => c ≠ '"' && c ≠ '\''
  | .slot _ :: _ => false

/-- The parts of a template, where every slot stands between tokens. -/
def parts : State → List Piece → Option (List Part)
  | s, [] => (finish s).map (·.map .token)
  | s, .plain cs :: rest => do
    let (ts, s) ← drive s cs
    let more ← parts s rest
    return ts.map .token ++ more
  | .between, .slot inner :: rest =>
    if apart rest then (parts .between rest).map (.slot (Piece.slotName inner) :: ·) else none
  | _, .slot _ :: _ => none

/-- Whether a piece has a fragment, if it is a slot. -/
def isBound (b : Bindings) : Piece → Bool
  | .plain _ => true
  | .slot inner => (b.get? (Piece.slotName inner)).isSome

/-- A token is a template's own, or that of the fragment in the slot. -/
def Part.Becomes (b : Bindings) : Part → Token → Prop
  | .token t, u => u = t
  | .slot name, u => ∃ f, b.get? name = some f ∧ u = SqlLexer.token f

theorem forall₂_tokens {b : Bindings} (ts : List Token) : List.Forall₂ (Part.Becomes b) (ts.map .token) ts := by
  induction ts with
  | nil => exact .nil
  | cons t ts ih => exact .cons rfl ih

theorem head_of_apart {b : Bindings} {ps : List Piece} (h : apart ps) {c : Char}
    (begins : (ps.flatMap (·.fill b)).head? = some c) : c ≠ '"' ∧ c ≠ '\'' := by
  fun_induction apart ps with
  | case1 => cases begins
  | case2 rest ih => exact ih h begins
  | case3 d cs rest =>
    obtain rfl : d = c := Option.some.inj begins
    simpa using h
  | case4 => cases h

/-- Where a template can be lexed, what is rendered of it consists of its own tokens and one for each slot. -/
theorem lexFrom_pieces {b : Bindings} {s : State} {ps : List Piece} {own : List Part} (lexed : parts s ps = some own)
    (bound : ∀ piece ∈ ps, isBound b piece) :
    ∃ tokens, List.Forall₂ (Part.Becomes b) own tokens ∧ lexFrom s (ps.flatMap (·.fill b)) = some tokens := by
  fun_induction parts s ps generalizing own with
  | case1 s =>
    obtain ⟨ts, ended, rfl⟩ := Option.map_eq_some_iff.1 lexed
    exact ⟨ts, forall₂_tokens ts, by simp [lexFrom, drive, ended]⟩
  | case2 s cs rest ih =>
    obtain ⟨⟨ts, s'⟩, driven, more, lexed', rfl⟩ : ∃ r, drive s cs = some r ∧ ∃ more, parts r.2 rest = some more ∧
        r.1.map .token ++ more = own := by simpa [Option.bind_eq_some_iff] using lexed
    obtain ⟨tokens, become, read⟩ := ih s' lexed' fun piece member => bound piece (List.mem_cons_of_mem _ member)
    refine ⟨ts ++ tokens, List.rel_append (forall₂_tokens ts) become, ?_⟩
    rw [List.flatMap_cons]
    exact (lexFrom_append driven _).trans (by rw [read]; rfl)
  | case3 inner rest separate ih =>
    obtain ⟨more, lexed', rfl⟩ := Option.map_eq_some_iff.1 lexed
    obtain ⟨f, found⟩ := Option.isSome_iff_exists.1 (bound _ List.mem_cons_self)
    obtain ⟨tokens, become, read⟩ := ih lexed' fun piece member => bound piece (List.mem_cons_of_mem _ member)
    obtain ⟨k, past, driven, same⟩ := drive_chars f
    refine ⟨token f :: tokens, .cons ⟨f, found, rfl⟩ become, ?_⟩
    have filled : (Piece.slot inner).fill b = f.chars := by simp only [Piece.fill, found]
    have after : ∀ c, (rest.flatMap (·.fill b)).head? = some c → c ≠ k.quote := by
      intro c begins
      obtain ⟨double, single⟩ := head_of_apart separate begins
      cases k <;> assumption
    rw [List.flatMap_cons, filled, lexFrom_append driven, lexFrom_closing after, read, same]
    rfl
  | case4 => cases lexed
  | case5 => cases lexed

/-- The statements that the broker runs on its own account, and those that it has for roles without any. -/
def builtIn : List String :=
  [Statements.createDatabase, Statements.createObjectsOwner, Statements.grantAllToOwner, Statements.updatePassword,
    Statements.createManagementRole, Statements.renewExpiry] ++ Statements.creation ++ Statements.revocation

theorem lexes_builtIn : ∀ template ∈ builtIn, (parts .between (pieces template.toList)).isSome := by
  decide +kernel

/-- Whatever is bound to the slots of a built-in statement, a server reads the statement's own tokens, and for each slot
    one token: a name up to its first NUL, or exactly the value of a literal. -/
theorem lex_render_builtIn {template : String} {b : Bindings} (member : template ∈ builtIn)
    (bound : ∀ piece ∈ pieces template.toList, isBound b piece) :
    ∃ own tokens, parts .between (pieces template.toList) = some own ∧ List.Forall₂ (Part.Becomes b) own tokens ∧
      lex (render template b) = some tokens := by
  obtain ⟨own, lexed⟩ := Option.isSome_iff_exists.1 (lexes_builtIn template member)
  obtain ⟨tokens, become, read⟩ := lexFrom_pieces lexed bound
  refine ⟨own, tokens, lexed, become, ?_⟩
  rw [lex, render, String.toList_ofList]
  exact read

/-- Values that try to get out of their tokens. -/
def hostile : Bindings :=
  (Bindings.empty.identifier "user" "a\"; drop role b; --\x00c").literal "password" "\\'; \x7b\x7buser\x7d\x7d \"\\"

theorem lex_render_hostile : ∃ own tokens,
    parts .between (pieces Statements.createManagementRole.toList) = some own ∧
      List.Forall₂ (Part.Becomes hostile) own tokens ∧ lex (render Statements.createManagementRole hostile) = some tokens ∧
      tokens = [.word "create", .word "role", .identifier "a\"; drop role b; --", .word "with", .word "login",
        .word "password", .literal "\\'; \x7b\x7buser\x7d\x7d \"\\", .word "createrole", .word "nocreatedb",
        .word "noinherit"] := by
  obtain ⟨own, tokens, lexed, become, read⟩ := lex_render_builtIn (b := hostile)
    (by simp [builtIn] : Statements.createManagementRole ∈ builtIn) (by decide +kernel)
  refine ⟨own, tokens, lexed, become, read, Option.some.inj (read.symm.trans ?_)⟩
  decide +kernel

end SqlLexer

end LeaseBroker
