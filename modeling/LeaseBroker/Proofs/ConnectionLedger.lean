import LeaseBroker.Proofs.DeletedConnections
import Mathlib.Algebra.BigOperators.Finsupp.Basic
import Mathlib.Algebra.Order.Group.Multiset
import Mathlib.Tactic.Abel

/-!
Who has still to close what. A caller that opens a connection takes upon itself
to count it, and to close it or to leave it to the cache. A caller that takes
connections out of the cache takes upon itself to count and to close each. What
is owed follows from the calls alone, so a program can be looked at without the
state that it runs in: its state is what it owes (`ledger`). Every command ends
owing what it owed before, however it ends (`Command.settles`), and so nobody owes
anything who has ended (`Solvent`).
-/
namespace LeaseBroker

open Op
open Program (Monotone wp)

/-- What a caller has still to do. -/
inductive Duty where
  /-- To close the connection, or to leave it to the cache. -/
  | hold (conn : Connection)
  | count (what : Tally)
  deriving DecidableEq

namespace Duty

def isHold : Duty → Bool
  | hold _ => true
  | count _ => false

@[simp] theorem isHold_hold (conn : Connection) : (hold conn).isHold = true := rfl

@[simp] theorem isHold_count (what : Tally) : (count what).isHold = false := rfl

/-- To count each of some connections, and to close it or to leave it to the cache. -/
def ofEach (what : Tally) (conns : List Connection) : Multiset Duty := (conns.map fun conn => {hold conn, count what}).sum

variable {what : Tally} (conn : Connection) (conns : List Connection)

theorem ofEach_cons : ofEach what (conn :: conns) = {hold conn} + {count what} + ofEach what conns := List.sum_cons

theorem ofEach_append (rest : List Connection) : ofEach what (conns ++ rest) = ofEach what conns + ofEach what rest := by
  unfold ofEach
  rw [List.map_append, List.sum_append]

theorem count_hold_ofEach : (ofEach what conns).count (hold conn) = conns.count conn := by
  induction conns with
  | nil => rfl
  | cons first rest ih =>
    rw [ofEach_cons, List.count_cons, ← ih]
    by_cases same : first = conn
    · simp [same, Nat.add_comm]
    · simp [same, Ne.symm same]

theorem hold_mem_ofEach {conn : Connection} {conns : List Connection} (member : conn ∈ conns) :
    hold conn ∈ ofEach what conns := by
  rw [← Multiset.count_pos, count_hold_ofEach]
  exact List.count_pos_iff.2 member

theorem count_count_ofEach (other : Tally) :
    (ofEach what conns).count (count other) = if other = what then conns.length else 0 := by
  induction conns with
  | nil => simp [ofEach]
  | cons first rest ih =>
    rw [ofEach_cons, Multiset.count_add, Multiset.count_add, ih]
    by_cases same : other = what
    · simp [same, Nat.add_comm]
    · simp [same]

theorem countP_ofEach : (ofEach what conns).countP (·.isHold) = conns.length := by
  induction conns with
  | nil => rfl
  | cons first rest ih =>
    have one : Multiset.countP (·.isHold) {hold first} = 1 := rfl
    have none : Multiset.countP (·.isHold) {count what} = 0 := rfl
    rw [ofEach_cons, Multiset.countP_add, Multiset.countP_add, ih, one, none, List.length_cons]
    omega

end Duty

namespace Call

/-- What a caller takes upon itself with a call. -/
def takes : (call : Call) → call.Answer → Multiset Duty
  | connect _, .ok conn => Duty.ofEach .opened [conn]
  | evict _, evicted => Duty.ofEach .evicted (List.map Prod.snd evicted)
  | _, _ => 0

/-- What a caller has done with a call of what it took upon itself. -/
def settles : (call : Call) → call.Answer → Multiset Duty
  | keep _ _ conn, .kept => {.hold conn}
  | close conn, _ => {.hold conn}
  | tally .opened, _ => {.count .opened}
  | tally .evicted, _ => {.count .evicted}
  | _, _ => 0

end Call

/-- Who holds a connection no longer has closed it, or has left it to the cache. -/
theorem Event.of_hold_mem_settles {e : Event} {conn : Connection} (h : .hold conn ∈ e.call.settles e.answer) :
    (∃ r, e = ⟨e.asker, .close conn, r⟩) ∨ ∃ key g, e = ⟨e.asker, .keep key g conn, .kept⟩ := by
  obtain ⟨i, call, r⟩ := e
  cases call with
  | close other =>
    obtain rfl : conn = other := by simpa [Call.settles] using h
    exact .inl ⟨r, rfl⟩
  | keep key g other =>
    cases r with
    | kept =>
      obtain rfl : conn = other := by simpa [Call.settles] using h
      exact .inr ⟨key, g, rfl⟩
    | _ => simp [Call.settles] at h
  | tally what => cases what <;> simp [Call.settles] at h
  | _ => simp [Call.settles] at h

/-- No connection that is owed to be counted as evicted is closed yet. -/
def Covered (D : Multiset Duty) : Prop := D.count (.count .evicted) ≤ D.countP (·.isHold)

/-- For a program that owes `D`: whatever a call is answered, what it settles was owed. That a connection was cached is
    counted where it is put into the cache, and by no call of its own. -/
def ledger : Program.Demands (Multiset Duty) := fun call K D =>
  call ≠ .tally .cached ∧ ∀ r, ∃ E, D + call.takes r = call.settles r + E ∧ Covered E ∧ K r E

instance : Monotone ledger where
  mono weaker h := ⟨h.1, fun r =>
    have ⟨E, paid, covered, wanted⟩ := h.2 r
    ⟨E, paid, covered, weaker r E wanted⟩⟩

variable {α : Type} {D E : Multiset Duty} {conn : Connection}

theorem covered_zero : Covered 0 := Nat.le_refl 0

theorem Covered.add (h : Covered D) (h' : Covered E) : Covered (D + E) := by
  unfold Covered at *
  rw [Multiset.count_add, Multiset.countP_add]
  omega

theorem covered_hold (conn : Connection) : Covered {.hold conn} := by simp [Covered]

theorem covered_ofEach (what : Tally) (conns : List Connection) : Covered (Duty.ofEach what conns) := by
  unfold Covered
  rw [Duty.count_count_ofEach, Duty.countP_ofEach]
  split
  · exact Nat.le_refl _
  · exact Nat.zero_le _

/-- A call with which nothing is taken on and nothing settled. -/
theorem ledger_plain {call : Call} {K : call.Answer → Multiset Duty → Prop} (covered : Covered D)
    (uncounted : call ≠ .tally .cached) (plain : ∀ r, call.takes r = 0 ∧ call.settles r = 0) (next : ∀ r, K r D) :
    ledger call K D :=
  ⟨uncounted, fun r => ⟨D, by rw [(plain r).1, (plain r).2, add_zero, zero_add], covered, next r⟩⟩

theorem ledger_quiet {call : Call} {K : call.Answer → Multiset Duty → Prop} (covered : Covered D) (quiet : call.quiet)
    (next : ∀ r, K r D) : ledger call K D := by
  refine ledger_plain covered (by rintro rfl; cases quiet) (fun r => ?_) next
  cases call with
  | fetch | list | find | metrics | uuid | password | now => exact ⟨rfl, rfl⟩
  | _ => cases quiet

theorem ledger_toil {call : Call} {K : call.Answer → Multiset Duty → Prop} (covered : Covered D) (toils : call.toils)
    (next : ∀ r, K r D) : ledger call K D := by
  refine ledger_plain covered (by rintro rfl; cases toils) (fun r => ?_) next
  cases call with
  | tally what => cases what <;> first | exact ⟨rfl, rfl⟩ | cases toils
  | execute | start | run | commit | rollback | uuid | password | now => exact ⟨rfl, rfl⟩
  | _ => cases toils

namespace Connections

/-- A connection that was opened is held. -/
theorem wp_ledger_openUncached (covered : Covered D) {record : ClusterRecord} {kind : LoginKind} {database : String} :
    Op.wp ledger (fun conn E => E = {.hold conn} + D) (fun _ E => E = D) (openUncached record kind database) D := by
  refine (wp_bind_ofSql ..).2 ⟨nofun, fun r => ?_⟩
  cases r with
  | error e => exact ⟨D, add_comm .., covered, rfl⟩
  | ok conn =>
    have held : Covered ({.hold conn} + D) := (covered_hold conn).add covered
    refine ⟨D + Duty.ofEach .opened [conn], (zero_add _).symm, covered.add (covered_ofEach _ _), ?_⟩
    refine (wp_bind_lift ..).2 ⟨nofun, fun _ => ⟨_, ?_, held, rfl⟩⟩
    show D + Duty.ofEach .opened [conn] + 0 = {.count .opened} + ({.hold conn} + D)
    rw [Duty.ofEach_cons]
    show D + ({.hold conn} + {.count .opened} + 0) + 0 = _
    abel

theorem wp_ledger_opens {opening : Op Connection} (opens : Opens opening) (covered : Covered D) :
    Op.wp ledger (fun conn E => E = {.hold conn} + D) (fun _ E => E = D) opening D := by
  cases opens with
  | plain => exact wp_ledger_openUncached covered
  | inContext => exact (wp_inContext ..).2 (wp_ledger_openUncached covered)

/-- A connection that is closed is held no longer, also when closing fails. -/
theorem wp_ledger_close (covered : Covered D) :
    wp ledger (fun _ E => E = D) (Program.close conn) ({.hold conn} + D) :=
  ⟨nofun, fun _ => ⟨D, add_zero _, covered, rfl⟩⟩

theorem wp_ledger_closeQuietly (covered : Covered D) :
    wp ledger (fun _ E => E = D) (closeQuietly conn) ({.hold conn} + D) :=
  (Program.wp_bind ..).2 (wp_ledger_close covered)

theorem wp_ledger_closeAll (covered : Covered D) (evicted : List (ConnectionKey × Connection)) :
    wp ledger (fun _ E => E = D) (closeAll evicted) (Duty.ofEach .evicted (evicted.map Prod.snd) + D) := by
  induction evicted with
  | nil => exact zero_add D
  | cons entry rest ih =>
    have left : Covered (Duty.ofEach .evicted (rest.map Prod.snd) + D) := (covered_ofEach _ _).add covered
    have held : Covered ({.hold entry.2} + (Duty.ofEach .evicted (rest.map Prod.snd) + D)) := (covered_hold _).add left
    refine (Program.wp_bind ..).2 ⟨nofun, fun _ => ⟨_, ?_, held, ?_⟩⟩
    · show Duty.ofEach .evicted (entry.2 :: rest.map Prod.snd) + D + 0 = {.count .evicted} + _
      rw [Duty.ofEach_cons]
      abel
    · refine Program.wp_seq (wp_ledger_close left) fun closed E same => ?_
      subst same
      cases closed with
      | ok u => exact ih
      | error e => exact Program.wp_seq ih fun _ _ same => same

theorem wp_ledger_invalidate (covered : Covered D) (what : Eviction) :
    wp ledger (fun _ E => E = D) (invalidate what) D := by
  refine (Program.wp_bind ..).2 ⟨nofun, fun evicted => ?_⟩
  refine ⟨Duty.ofEach .evicted (List.map Prod.snd evicted) + D, ?_, (covered_ofEach _ _).add covered, ?_⟩
  · show D + Duty.ofEach .evicted (List.map Prod.snd evicted) = 0 + _
    abel
  · refine Program.wp_seq (wp_ledger_closeAll covered evicted) fun failures E same => ?_
    cases failures <;> exact same

/-- A connection that was got is not held: it is in the cache, or it was there. -/
theorem keeps_ledger_getWithin (covered : Covered D) (key : ConnectionKey) (more : Nat) :
    Op.Keeps ledger (· = D) (getWithin key more) := by
  refine fun s same => wp_getWithin (fun _ => (· = D)) (fun _ _ => (· = D)) (fun _ _ conn => (· = {.hold conn} + D))
    (fun _ same => ⟨same, trivial⟩) (fun _ s same => ?_) (fun _ _ s same => ?_) (fun _ g conn s held => ?_) more same
  · subst same
    refine ledger_quiet covered rfl fun found => ?_
    cases found <;> rfl
  · subst same
    have quiet : Op.Only (·.quiet) (loadCluster key.cluster) := only_loadRecord
    have loading : Op.wp ledger (fun _ E => E = s) (fun _ E => E = s) (loadCluster key.cluster) s := by
      refine wp_of_only (D := ledger) (I := (· = s)) (fun c K t quiet same next => ?_) quiet rfl
      subst same
      exact ledger_quiet covered quiet fun r => next r _ rfl
    refine wp_found loading (fun _ same => ⟨same, trivial⟩) (fun record E same => ?_) fun _ _ same => ⟨same, trivial⟩
    subst same
    exact wp_mono (wp_ledger_openUncached covered) (fun _ _ => id) fun _ _ same => ⟨same, trivial⟩
  · subst held
    refine ⟨nofun, fun placed => ?_⟩
    have held : Covered ({.hold conn} + D) := (covered_hold conn).add covered
    cases placed with
    | kept => exact ⟨D, add_zero _, covered, rfl⟩
    | present _ | superseded =>
      refine ⟨{.hold conn} + D, (add_zero _).trans (zero_add _).symm, held, ?_⟩
      exact wp_ledger_closeQuietly covered

end Connections

theorem wp_ledger_toil {p : Op α} (covered : Covered D) (toils : Op.Only (·.toils) p) :
    Op.wp ledger (fun _ E => E = D) (fun _ E => E = D) p D := by
  refine wp_of_only (D := ledger) (I := (· = D)) (fun c K s toils same next => ?_) toils rfl
  subst same
  exact ledger_toil covered toils fun r => next r _ rfl

/-- Whatever operations are made of, what they owe in the end is what they owed before. -/
theorem habit_ledger (covered : Covered D) : Habit ledger (· = D) where
  toil := {
    call := fun toils same next => by
      subst same
      exact ledger_toil covered toils fun r => next r _ rfl fun _ _ => trivial
    context := fun _ => trivial }
  quiet quiet same next := by
    subst same
    exact ledger_quiet covered quiet fun r => next r _ rfl
  get key := Connections.keeps_ledger_getWithin covered key _
  use opens toils := by
    intro s same
    rw [same]
    refine wp_seq (Connections.wp_ledger_opens opens covered) (fun conn E held => ?_)
      fun _ _ same => ⟨same, trivial⟩
    rw [held]
    refine (wp_andAlways ..).2 (wp_mono (wp_ledger_toil ((covered_hold conn).add covered) (toils conn)) ?_ ?_)
    · intro _ F same
      rw [same]
      exact Connections.wp_ledger_closeQuietly covered
    · intro _ F same
      rw [same]
      exact Program.wp_mono (fun _ _ same => ⟨same, trivial⟩) (Connections.wp_ledger_closeQuietly covered)
  tryManagement record := by
    intro s same
    rw [same]
    refine wp_seq (Connections.wp_ledger_opens (.inContext ..) covered) (fun conn E held => ?_)
      fun _ _ same => ⟨same, trivial⟩
    rw [held]
    refine wp_seq_lift (Connections.wp_ledger_close covered) fun closed F same => ?_
    cases closed <;> exact same
  invalidate what := by
    intro s same
    rw [same]
    exact (wp_lift _).2 (Connections.wp_ledger_invalidate covered what)

theorem free_ledger (covered : Covered D) (key : String) : Free ledger (· = D) key where
  put value _ _ same next := by
    subst same
    exact ledger_plain covered nofun (fun _ => ⟨rfl, rfl⟩) fun r => next r _ rfl
  delete same next := by
    subst same
    exact ledger_plain covered nofun (fun _ => ⟨rfl, rfl⟩) fun r => next r _ rfl

/-- What ends owing what it owed before owes nothing if it owed nothing. -/
theorem settled_of_keeps {p : Op α} (h : Op.Keeps ledger (· = 0) p) : wp ledger (fun _ D => D = 0) p.run 0 :=
  wp_either.1 (wp_mono (h 0 rfl) (fun _ _ same => same) fun _ _ failed => failed.1)

/-- A command that owes nothing when it begins owes nothing when it ends, however it ends. -/
theorem Command.settles (command : Command) : wp ledger (fun _ D => D = 0) command.op.run 0 := by
  have free := free_ledger covered_zero
  have habit := habit_ledger covered_zero
  have frees : command.Frees ledger (· = 0) := by
    cases command with
    | registerCluster | deleteCluster | purgeCluster => exact habit.renewable (free _)
    | cloneCluster => exact ⟨free _, fun _ _ => keeps_put (free _)⟩
    | writeTags => exact fun _ => free _
    | registerDatabase | deleteDatabase | purgeDatabase | writeRole | deleteRole | eraseTags => exact free _
    | _ => trivial
  exact settled_of_keeps (keeps_op habit command frees)

/-! ## All callers -/

namespace Surroundings

variable {s : Surroundings} {i : Nat} {call : Call} {r : call.Answer}

/-- What each caller has taken upon itself. -/
noncomputable def took (s : Surroundings) : Nat →₀ Multiset Duty :=
  (s.history.map fun e => .single e.asker (e.call.takes e.answer)).sum

/-- What each caller has done of that. -/
noncomputable def settled (s : Surroundings) : Nat →₀ Multiset Duty :=
  (s.history.map fun e => .single e.asker (e.call.settles e.answer)).sum

theorem took_after : (s.after i call r).took = .single i (call.takes r) + s.took := List.sum_cons

theorem settled_after : (s.after i call r).settled = .single i (call.settles r) + s.settled := List.sum_cons

theorem took_of_unasked (unasked : ∀ e ∈ s.history, e.asker ≠ i) : s.took i = 0 := by
  unfold took
  generalize s.history = history at unasked ⊢
  induction history with
  | nil => rfl
  | cons e earlier ih =>
    rw [List.map_cons, List.sum_cons, Finsupp.add_apply, Finsupp.single_eq_of_ne (unasked e List.mem_cons_self).symm,
      ih fun e member => unasked e (List.mem_cons_of_mem _ member), add_zero]

/-- What a caller has taken on, or settled, it has in one of its calls. -/
theorem mem_sum_single {f : Event → Multiset Duty} {events : List Event} {duty : Duty} :
    duty ∈ (events.map fun e => Finsupp.single e.asker (f e)).sum i ↔ ∃ e ∈ events, e.asker = i ∧ duty ∈ f e := by
  induction events with
  | nil => simp
  | cons e rest ih =>
    rw [List.map_cons, List.sum_cons, Finsupp.add_apply, Multiset.mem_add, ih, List.exists_mem_cons_iff]
    refine or_congr_left ?_
    by_cases own : e.asker = i
    · simp [own]
    · simp [own, Finsupp.single_eq_of_ne (Ne.symm own)]

/-- `D` is what each caller owes. -/
def Owes (D : Nat →₀ Multiset Duty) (s : Surroundings) : Prop := s.took = s.settled + D

theorem Owes.after {D : Nat →₀ Multiset Duty} (owes : Owes D s) {E : Multiset Duty}
    (paid : D i + call.takes r = call.settles r + E) : Owes (.single i E + D.erase i) (s.after i call r) := by
  unfold Owes at owes ⊢
  have split : D = .single i (D i) + D.erase i := (Finsupp.single_add_erase i D).symm
  calc (s.after i call r).took
      = .single i (call.takes r) + (s.settled + (.single i (D i) + D.erase i)) := by rw [took_after, owes, ← split]
    _ = .single i (D i + call.takes r) + (s.settled + D.erase i) := by
        rw [Finsupp.single_add]
        abel
    _ = (s.after i call r).settled + (.single i E + D.erase i) := by
        rw [paid, Finsupp.single_add, settled_after]
        abel

theorem Owes.eq_zero_of_unasked {D : Nat →₀ Multiset Duty} (owes : Owes D s) (unasked : ∀ e ∈ s.history, e.asker ≠ i) :
    D i = 0 := by
  have nothing := took_of_unasked unasked
  rw [owes, Finsupp.add_apply] at nothing
  exact Multiset.le_zero.1 (nothing ▸ Multiset.le_add_left ..)

end Surroundings

open Surroundings (Owes)

/-- What is left of a program settles what its caller owes. -/
def Solvent (D : Nat →₀ Multiset Duty) (p : Pool α) : Prop :=
  Owes D p.shared ∧ ∀ i, Covered (D i) ∧ wp ledger (fun _ E => E = 0) (p.tasks i) (D i)

theorem Solvent.after {D : Nat →₀ Multiset Duty} {p : Pool α} {i : Nat} {call : Call} {next : call.Answer → Program α}
    (solvent : Solvent D p) (turn : p.tasks i = .call call next) (r : call.Answer) :
    ∃ E, Solvent E (p.after i call r (next r)) := by
  have own := (solvent.2 i).2
  rw [turn] at own
  obtain ⟨E, paid, covered, wanted⟩ := own.2 r
  have owes := solvent.1.after paid
  refine ⟨_, owes, fun j => ?_⟩
  by_cases same : j = i
  · subst same
    rw [Finsupp.add_apply, Finsupp.single_eq_same, Finsupp.erase_same, add_zero, p.tasks_after_self]
    exact ⟨covered, wanted⟩
  · rw [Finsupp.add_apply, Finsupp.single_eq_of_ne same, Finsupp.erase_ne same, zero_add, p.tasks_after_of_ne same]
    exact solvent.2 j

/-- Whatever programs do at the same time that settle what they take on, what each owes will be settled by what is left
    of it. -/
theorem solvent_of_reaches {p q : Pool α} (run : Pool.Reaches p q) (unbegun : p.shared.history = [])
    (each : ∀ i, wp ledger (fun _ D => D = 0) (p.tasks i) 0) : ∃ D, Solvent D q := by
  induction run with
  | refl =>
    refine ⟨0, ?_, fun i => ⟨covered_zero, each i⟩⟩
    simp [Owes, Surroundings.took, Surroundings.settled, unbegun]
  | tail _ step ih =>
    obtain ⟨D, solvent⟩ := ih
    obtain ⟨turn, -⟩ := step
    exact solvent.after turn _

theorem Command.solvent {commands : Nat → Command} {values : Table String}
    {q : Pool (Except BrokerError (Option Credential))} (run : Pool.Reaches (pool commands ⟨values, .empty, []⟩) q) :
    ∃ D, Solvent D q :=
  solvent_of_reaches run rfl fun i => (commands i).settles

namespace Solvent

variable {D : Nat →₀ Multiset Duty} {i : Nat}

/-- A caller that has ended owes nothing. -/
theorem eq_zero_of_done {q : Pool α} (solvent : Solvent D q) {a : α} (ended : q.tasks i = .done a) : D i = 0 := by
  have settled := (solvent.2 i).2
  rw [ended] at settled
  exact settled

/-- What a caller that has ended took upon itself with one call it has settled with another. -/
theorem settled_of_done {q : Pool α} (solvent : Solvent D q) {a : α} (ended : q.tasks i = .done a) {duty : Duty}
    (taken : ∃ e ∈ q.shared.history, e.asker = i ∧ duty ∈ e.call.takes e.answer) :
    ∃ e ∈ q.shared.history, e.asker = i ∧ duty ∈ e.call.settles e.answer := by
  rw [← Surroundings.mem_sum_single] at taken ⊢
  have flow : q.shared.took i = q.shared.settled i + D i := by
    rw [solvent.1]
    rfl
  rw [solvent.eq_zero_of_done ended, add_zero] at flow
  exact flow ▸ taken

/-- A caller that has ended, or not begun, owes nothing. -/
theorem eq_zero_of_idle {q : Pool (Except BrokerError (Option Credential))} (solvent : Solvent D q)
    (idle : Command.Idle q i) : D i = 0 := by
  rcases idle with ⟨result, ended⟩ | unasked
  · exact solvent.eq_zero_of_done ended
  · exact solvent.1.eq_zero_of_unasked unasked

end Solvent

/-! ## All callers together -/

/-- What all callers owe together. -/
noncomputable def total : (Nat →₀ Multiset Duty) →+ Multiset Duty := Finsupp.liftAddHom fun _ => AddMonoidHom.id _

theorem total_single (i : Nat) (D : Multiset Duty) : total (.single i D) = D := Finsupp.liftAddHom_apply_single _ i D

theorem le_total (D : Nat →₀ Multiset Duty) (i : Nat) : D i ≤ total D := by
  calc D i ≤ D i + total (D.erase i) := Multiset.le_add_right ..
    _ = total D := by rw [← total_single i (D i), ← map_add, Finsupp.single_add_erase]

theorem covered_total {D : Nat →₀ Multiset Duty} (covered : ∀ i, Covered (D i)) : Covered (total D) := by
  show Covered (D.sum fun _ d => d)
  exact Finset.sum_induction _ Covered (fun _ _ => Covered.add) covered_zero fun i _ => covered i

end LeaseBroker
