import LeaseBroker.Credentials

/-!
What a server makes of statements that run under savepoints, one savepoint for
each. A statement that is rejected aborts the transaction, and then nothing is
accepted until it goes back to a savepoint (`Progress.Step`). Where the savepoints
themselves are in order, an attempt leaves what its statement did if that ran, and
nothing if it failed (`Progress.runs_attempt`); so in the end the transaction is
not aborted, and holds what exactly the statements did that ran
(`Progress.runs_attempts`).
-/
namespace LeaseBroker

open Template (render)

/-- A statement in a transaction with the answer of the server. -/
abbrev Answered := String × Except SqlError Unit

/-- How an attempt at a statement goes, which is made under a savepoint. -/
inductive Fate where
  /-- No savepoint was set, so the statement was not run. -/
  | barred (e : SqlError)
  /-- The statement was rejected, and the server told to go back to the savepoint. -/
  | failed (e : SqlError) (restored : Except SqlError Unit)
  /-- The statement ran, and the server was told to forget the savepoint. -/
  | ran (released : Except SqlError Unit)

namespace Fate

/-- What comes of the attempt. To go back to the savepoint may fail too, which is not reported. -/
def reply : Fate → Except SqlError Unit
  | barred e => .error e
  | failed e _ => .error e
  | ran released => released

def statements (sql : String) : Fate → List Answered
  | barred e => [(Statements.savepoint, .error e)]
  | failed e restored => [(Statements.savepoint, .ok ()), (sql, .error e), (Statements.rollbackToSavepoint, restored)]
  | ran released => [(Statements.savepoint, .ok ()), (sql, .ok ()), (Statements.releaseSavepoint, released)]

/-- The savepoint was set, and then gone back to or forgotten. -/
def Orderly : Fate → Prop
  | barred _ => False
  | failed _ restored => restored = .ok ()
  | ran released => released = .ok ()

end Fate

/-- An attempt at the statement of a list that stands at `index`, there with blanks around it or not. -/
structure Attempt where
  index : Nat
  template : String
  fate : Fate

namespace Attempt

def sql (bindings : Bindings) (a : Attempt) : String := render a.template bindings

def statements (bindings : Bindings) (a : Attempt) : List Answered := a.fate.statements (a.sql bindings)

/-- The statement, if it ran. -/
def done? (bindings : Bindings) (a : Attempt) : Option String :=
  match a.fate with
  | .ran _ => some (a.sql bindings)
  | _ => none

def warning? (a : Attempt) : Option Warning :=
  match a.fate.reply with
  | .error e => some (.revocationFailed a.index a.template e)
  | .ok () => none

end Attempt

/-! ## Inside a transaction -/

/-- How far a transaction is: the data as it sees them, the data at its savepoints, the latest first, and whether it is
    aborted. -/
structure Progress (δ : Type) where
  data : δ
  saved : List δ
  aborted : Bool

namespace Progress

variable {δ : Type} (effect : String → δ → δ → Prop)

/-- The statements that have to do with savepoints and not with data. -/
def bookkeeping : List String := [Statements.savepoint, Statements.releaseSavepoint, Statements.rollbackToSavepoint]

/-- What a server may answer to a statement, and what follows. All other statements have effects of their own on data. -/
inductive Step : Progress δ → Answered → Progress δ → Prop
  | rejected (p : Progress δ) (sql : String) (e : SqlError) : Step p (sql, .error e) { p with aborted := true }
  | saved (d : δ) (saved : List δ) : Step ⟨d, saved, false⟩ (Statements.savepoint, .ok ()) ⟨d, d :: saved, false⟩
  | released (d d' : δ) (saved : List δ) :
      Step ⟨d, d' :: saved, false⟩ (Statements.releaseSavepoint, .ok ()) ⟨d, saved, false⟩
  | restored (d d' : δ) (saved : List δ) (aborted : Bool) :
      Step ⟨d, d' :: saved, aborted⟩ (Statements.rollbackToSavepoint, .ok ()) ⟨d', d' :: saved, false⟩
  | ran {d d' : δ} (saved : List δ) {sql : String} (other : sql ∉ bookkeeping) (changed : effect sql d d') :
      Step ⟨d, saved, false⟩ (sql, .ok ()) ⟨d', saved, false⟩

inductive Runs : Progress δ → List Answered → Progress δ → Prop
  | nil (p : Progress δ) : Runs p [] p
  | cons {p q r : Progress δ} {a : Answered} {rest : List Answered} (first : Step effect p a q) (later : Runs q rest r) :
      Runs p (a :: rest) r

/-- Statements change data one after the other. Those that have to do with savepoints change none. -/
inductive Changes : List String → δ → δ → Prop
  | nil (d : δ) : Changes [] d d
  | kept {sql : String} {rest : List String} {d d' : δ} (own : sql ∈ bookkeeping) (later : Changes rest d d') :
      Changes (sql :: rest) d d'
  | changed {sql : String} {rest : List String} {d d' d'' : δ} (other : sql ∉ bookkeeping) (first : effect sql d d')
      (later : Changes rest d' d'') : Changes (sql :: rest) d d''

/-- What is left of a transaction that is committed. One that is aborted leaves what there was before. -/
def persisted (before : δ) (p : Progress δ) : δ := if p.aborted then before else p.data

variable {effect} {p q r : Progress δ}

theorem Changes.append {first second : List String} {d d' d'' : δ} (h : Changes effect first d d')
    (h' : Changes effect second d' d'') : Changes effect (first ++ second) d d'' := by
  induction h with
  | nil => exact h'
  | kept own _ ih => exact .kept own (ih h')
  | changed other first _ ih => exact .changed other first (ih h')

theorem runs_nil_iff : Runs effect p [] r ↔ p = r := ⟨fun | .nil _ => rfl, fun same => same ▸ .nil p⟩

theorem runs_cons_iff {a : Answered} {rest : List Answered} :
    Runs effect p (a :: rest) r ↔ ∃ q, Step effect p a q ∧ Runs effect q rest r :=
  ⟨fun | .cons first later => ⟨_, first, later⟩, fun ⟨_, first, later⟩ => .cons first later⟩

theorem runs_append_iff {first second : List Answered} :
    Runs effect p (first ++ second) r ↔ ∃ q, Runs effect p first q ∧ Runs effect q second r := by
  induction first generalizing p with
  | nil => simp [runs_nil_iff]
  | cons a rest ih =>
    simp only [List.cons_append, runs_cons_iff, ih]
    grind

theorem step_rejected {sql : String} {e : SqlError} (step : Step effect p (sql, .error e) q) :
    q = { p with aborted := true } := by
  cases step
  rfl

/-- A savepoint remembers the data. -/
theorem step_savepoint (step : Step effect p (Statements.savepoint, .ok ()) q) :
    p.aborted = false ∧ q = ⟨p.data, p.data :: p.saved, false⟩ := by
  generalize same : Statements.savepoint = sql at step
  cases step with
  | saved d saved => exact ⟨rfl, rfl⟩
  | released => exact absurd same (by decide)
  | restored => exact absurd same (by decide)
  | ran _ other => exact absurd (same ▸ List.mem_cons_self) other

/-- To forget a savepoint changes no data. -/
theorem step_release (step : Step effect p (Statements.releaseSavepoint, .ok ()) q) :
    q.data = p.data ∧ q.aborted = false := by
  generalize same : Statements.releaseSavepoint = sql at step
  cases step with
  | saved => exact ⟨rfl, rfl⟩
  | released => exact ⟨rfl, rfl⟩
  | restored => exact absurd same (by decide)
  | ran _ other => exact absurd (same ▸ by simp [bookkeeping]) other

/-- To go back to a savepoint brings back the data as they were there, whether the transaction is aborted or not. -/
theorem step_rollback (step : Step effect p (Statements.rollbackToSavepoint, .ok ()) q) :
    p.saved.head? = some q.data ∧ q.aborted = false := by
  generalize same : Statements.rollbackToSavepoint = sql at step
  cases step with
  | saved => exact absurd same (by decide)
  | released => exact absurd same (by decide)
  | restored => exact ⟨rfl, rfl⟩
  | ran _ other => exact absurd (same ▸ by simp [bookkeeping]) other

/-- A statement that runs right after a savepoint was set does what it does, or has to do with savepoints. -/
theorem step_statement {d : δ} {saved : List δ} {sql : String} (step : Step effect ⟨d, d :: saved, false⟩ (sql, .ok ()) q) :
    Changes effect [sql] d q.data ∧ q.aborted = false := by
  cases step with
  | saved => exact ⟨.kept (by simp [bookkeeping]) (.nil d), rfl⟩
  | released => exact ⟨.kept (by simp [bookkeeping]) (.nil d), rfl⟩
  | restored => exact ⟨.kept (by simp [bookkeeping]) (.nil d), rfl⟩
  | ran _ other changed => exact ⟨.changed other changed (.nil _), rfl⟩

/-- An attempt leaves what its statement did if that ran, and nothing if it failed. -/
theorem runs_attempt {bindings : Bindings} {a : Attempt} (orderly : a.fate.Orderly)
    (run : Runs effect p (a.statements bindings) q) :
    q.aborted = false ∧ Changes effect (a.done? bindings).toList p.data q.data := by
  obtain ⟨index, template, fate⟩ := a
  unfold Attempt.statements at run
  cases fate with
  | barred e => exact orderly.elim
  | failed e restored =>
    obtain rfl : restored = .ok () := orderly
    simp only [Fate.statements, runs_cons_iff, runs_nil_iff] at run
    obtain ⟨_, first, _, second, _, third, rfl⟩ := run
    obtain ⟨-, rfl⟩ := step_savepoint first
    obtain rfl := step_rejected second
    obtain ⟨head, live⟩ := step_rollback third
    have same : p.data = _ := Option.some.inj head
    exact ⟨live, same ▸ .nil p.data⟩
  | ran released =>
    obtain rfl : released = .ok () := orderly
    simp only [Fate.statements, runs_cons_iff, runs_nil_iff] at run
    obtain ⟨_, first, _, second, _, third, rfl⟩ := run
    obtain ⟨-, rfl⟩ := step_savepoint first
    obtain ⟨changed, -⟩ := step_statement second
    obtain ⟨same, live⟩ := step_release third
    refine ⟨live, ?_⟩
    rw [same]
    exact changed

/-- Where the savepoints of all attempts are in order, the transaction is not aborted, and holds what the statements did
    that ran. -/
theorem runs_attempts {bindings : Bindings} {attempts : List Attempt} (orderly : ∀ a ∈ attempts, a.fate.Orderly)
    (live : p.aborted = false) (run : Runs effect p (attempts.flatMap (·.statements bindings)) q) :
    q.aborted = false ∧ Changes effect (attempts.filterMap (·.done? bindings)) p.data q.data := by
  induction attempts generalizing p with
  | nil =>
    cases run
    exact ⟨live, .nil _⟩
  | cons a rest ih =>
    rw [List.flatMap_cons] at run
    obtain ⟨p', first, later⟩ := runs_append_iff.1 run
    obtain ⟨live', changed⟩ := runs_attempt (orderly a List.mem_cons_self) first
    obtain ⟨live'', changed'⟩ := ih (fun b member => orderly b (List.mem_cons_of_mem _ member)) live' later
    have split : (a :: rest).filterMap (·.done? bindings) = (a.done? bindings).toList ++ rest.filterMap (·.done? bindings) := by
      rw [List.filterMap_cons]
      cases a.done? bindings <;> rfl
    exact ⟨live'', split ▸ changed.append changed'⟩

end Progress

end LeaseBroker
