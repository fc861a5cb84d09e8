import LeaseBroker.Proofs.Savepoints
import LeaseBroker.Proofs.Sessions
import LeaseBroker.Proofs.TransactionTraces

/-!
How a lease is revoked where the store can be read, servers can be reached and
transactions begin and end, whatever statements are rejected (`Bearing`). There is
one transaction, over a cached connection or, where a record is deleted, over one
of its own; in it every statement of the list that is not blank is attempted
(`wp_runRevocation`), and in the end it is committed (`wp_revokeWithin`). With
what a server makes of savepoints, exactly the statements that ran are left
(`revoked_whatever_fails`).
-/
namespace LeaseBroker

open Op
open Surroundings (alone Done Reachable done_of_harmless done_of_deed)
open Template (render)

/-- The answer of a store that can be read, and of servers that can be reached and on which transactions begin and end.
    They may reject any statement. -/
def Call.Bears : (c : Call) → c.Answer → Prop
  | fetch _, r => r.isOk
  | connect _, r => r.isOk
  | start _, r => r.isOk
  | commit _, r => r.isOk
  | _, _ => True

namespace Surroundings

/-- What may be answered to caller `i` with nothing in between, and what follows. -/
def Bearing (i : Nat) : Program.Replies Surroundings := fun c s r t => s.Allows c r ∧ c.Bears r ∧ t = s.after i c r

theorem reachable_bearing (i : Nat) : Reachable i (Bearing i) where
  answered reply := ⟨reply.1, reply.2.2⟩
  fetched {_ _ _ r} reply := by
    cases r with
    | ok text? => exact ⟨text?, rfl⟩
    | error e => cases reply.2.1
  connected {_ _ _ r} reply := by
    cases r with
    | ok c => exact ⟨c, rfl⟩
    | error e => cases reply.2.1

/-- Such answers where every statement in a transaction gets this verdict. -/
def Judging (verdict : String → Except SqlError Unit) (i : Nat) : Program.Replies Surroundings := fun c s r t =>
  Bearing i c s r t ∧ ∀ tr sql a, (Event.mk i c r).deed? = some (.ran tr sql a) → a = verdict sql

/-- Whatever the verdicts are, every call can be answered. -/
theorem exists_judging (verdict : String → Except SqlError Unit) (i : Nat) (c : Call) (s : Surroundings) :
    ∃ r t, Judging verdict i c s r t := by
  have other (r : c.Answer) (allowed : s.Allows c r) (bears : c.Bears r)
      (noRun : ∀ tr sql, c ≠ .run tr sql) : ∃ r t, Judging verdict i c s r t :=
    ⟨r, _, ⟨allowed, bears, rfl⟩, fun tr sql _ found => absurd (Event.call_of_ran found) (noRun tr sql)⟩
  cases c with
  | run tr sql =>
    refine ⟨verdict sql, _, ⟨trivial, trivial, rfl⟩, ?_⟩
    rintro _ _ _ ⟨⟩
    rfl
  | fetch key => exact other (.ok _) (gives_self _) rfl nofun
  | connect target =>
    obtain ⟨n, unused⟩ := exists_unused Connection.serial s.opened
    refine other (.ok ⟨n, target⟩) ?_ rfl nofun
    rintro _ ⟨⟩
    exact ⟨rfl, unused⟩
  | start c =>
    obtain ⟨n, unused⟩ := exists_unused Transaction.serial s.begun
    refine other (.ok ⟨n, c⟩) ?_ rfl nofun
    rintro _ ⟨⟩
    exact ⟨rfl, unused⟩
  | commit tr => exact other (.ok ()) trivial rfl nofun
  | _ =>
    obtain ⟨r, allowed⟩ := s.exists_allowed _
    exact other r allowed trivial nofun

end Surroundings

open Surroundings (Bearing Judging reachable_bearing exists_judging)

/-- For a program that runs on its own, whatever statements are rejected. -/
abbrev Surroundings.bearing (i : Nat) : Program.Demands Surroundings := Program.demonic (Bearing i)

open Surroundings (bearing)

variable {i : Nat} {s t : Surroundings}

/-- What was done in a transaction by statements. -/
def Transaction.deeds (tr : Transaction) (statements : List Answered) : List Deed :=
  statements.map fun a => .ran tr a.1 a.2

theorem Transaction.deeds_append (tr : Transaction) (first second : List Answered) :
    tr.deeds (first ++ second) = tr.deeds first ++ tr.deeds second := List.map_append

namespace Credentials

/-- The statements of a list with their places in it, which begin at `first`; blank ones are left out. -/
def places (first : Nat) (templates : List String) : List (Nat × String) :=
  (templates.zipIdx first).filterMap fun (template, index) =>
    if Blank.isBlankText template then none else some (index, Blank.trimText template)

/-- The list that a role has for its leases, if it exists and has one. -/
def revocationList : Option RoleRecord → List String
  | some r => if r.revocation.all Blank.isBlankText then Statements.revocation else r.revocation
  | none => Statements.revocation

/-- These attempts were made at the statements of a list, in its order. -/
def Attempted (first : Nat) (templates : List String) (attempts : List Attempt) : Prop :=
  attempts.map (fun a => (a.index, a.template)) = places first templates

/-! ## Parts of a revocation -/

theorem wp_runIsolated {tr : Transaction} {sql : String} :
    Program.wp (alone i) (fun r t => ∃ fate : Fate, r = fate.reply ∧ Done (tr.deeds (fate.statements sql)) s t)
      (runIsolated tr sql) s := by
  refine Program.wp_seq wp_within fun saved t told => ?_
  cases saved with
  | error e => exact ⟨.barred e, rfl, told⟩
  | ok _ =>
    refine Program.wp_seq wp_within fun ran u told' => ?_
    cases ran with
    | ok _ =>
      refine Program.wp_mono (fun released v told'' => ?_) wp_within
      exact ⟨.ran released, rfl, told.trans (told'.trans told'')⟩
    | error e =>
      refine Program.wp_seq wp_within fun restored v told'' => ?_
      exact ⟨.failed e restored, rfl, told.trans (told'.trans told'')⟩

/-- Every statement that is not blank is attempted in its turn, and each that fails gives a warning. -/
theorem wp_runRevocation {tr : Transaction} {bindings : Bindings} (first : Nat) (templates : List String) :
    Program.wp (alone i)
      (fun warnings t => ∃ attempts, Attempted first templates attempts ∧ warnings = attempts.filterMap (·.warning?) ∧
        Done (tr.deeds (attempts.flatMap (·.statements bindings))) s t)
      (runRevocation tr bindings first templates) s := by
  induction templates generalizing first s with
  | nil => exact ⟨[], rfl, rfl, .refl s⟩
  | cons template rest ih =>
    unfold runRevocation
    dsimp only
    rw [Blank.isEmpty_trimText]
    cases blank : Blank.isBlankText template with
    | true =>
      refine Program.wp_mono (fun warnings t ended => ?_) (ih (first + 1))
      obtain ⟨attempts, attempted, ended⟩ := ended
      refine ⟨attempts, attempted.trans ?_, ended⟩
      simp [places, List.zipIdx_cons, blank]
    | false =>
      have next {attempts : List Attempt} (attempted : Attempted (first + 1) rest attempts) (fate : Fate) :
          Attempted first (template :: rest) (⟨first, Blank.trimText template, fate⟩ :: attempts) := by
        refine (congrArg (_ :: ·) attempted).trans ?_
        simp [places, List.zipIdx_cons, blank]
      refine Program.wp_seq wp_runIsolated fun r t isolated => ?_
      obtain ⟨fate, rfl, told⟩ := isolated
      have told' {attempts : List Attempt} {u : Surroundings}
          (later : Done (tr.deeds (attempts.flatMap (·.statements bindings))) t u) :
          Done (tr.deeds ((⟨first, Blank.trimText template, fate⟩ :: attempts).flatMap (·.statements bindings))) s u := by
        rw [List.flatMap_cons, Transaction.deeds_append]
        exact told.trans later
      cases replied : fate.reply with
      | ok _ =>
        refine Program.wp_mono (fun warnings u ended => ?_) (ih (first + 1))
        obtain ⟨attempts, attempted, rfl, later⟩ := ended
        refine ⟨_, next attempted fate, ?_, told' later⟩
        exact (List.filterMap_cons_none (by simp [Attempt.warning?, replied])).symm
      | error e =>
        refine Program.wp_seq (ih (first + 1)) fun warnings u ended => ?_
        obtain ⟨attempts, attempted, rfl, later⟩ := ended
        refine ⟨_, next attempted fate, ?_, told' later⟩
        exact (List.filterMap_cons_some (by simp [Attempt.warning?, replied])).symm

/-- All that is done in a transaction that is committed after some attempts. -/
def trace (tr : Transaction) (bindings : Bindings) (attempts : List Attempt) : List Deed :=
  .began tr :: tr.deeds (attempts.flatMap (·.statements bindings)) ++ [.committed tr (.ok ())]

/-- A transaction in which every statement of a list was attempted, and which was committed. -/
def Carried (tr : Transaction) (bindings : Bindings) (templates : List String) (warnings : List Warning)
    (s t : Surroundings) : Prop :=
  ∃ attempts, Attempted 0 templates attempts ∧ warnings = attempts.filterMap (·.warning?) ∧
    Done (trace tr bindings attempts) s t

theorem wp_start_bearing {c : Connection} :
    Program.wp (bearing i) (fun r t => ∃ tr, r = .ok tr ∧ Done [.began tr] s t) (Program.start c) s := by
  refine (reachable_bearing i).call fun r _ reply => ?_
  cases r with
  | error e => cases reply.2.1
  | ok tr => exact ⟨tr, rfl, done_of_deed rfl⟩

theorem wp_revokeWithin {tr : Transaction} {bindings : Bindings} {templates : List String} (began : Done [.began tr] s t) :
    Op.wp (bearing i) (fun warnings u => Carried tr bindings templates warnings s u) (fun _ _ => False)
      (revokeWithin tr bindings templates) t := by
  refine wp_seq_lift ((reachable_bearing i).wp (wp_runRevocation 0 templates)) fun warnings u ended => ?_
  obtain ⟨attempts, attempted, warned, told⟩ := ended
  refine (wp_bind_ofSql ..).2 ((reachable_bearing i).call fun r _ reply => ?_)
  cases r with
  | error e => cases reply.2.1
  | ok _ => exact ⟨attempts, attempted, warned, (began.trans told).trans (done_of_deed rfl)⟩

section
variable {cluster : ClusterRecord} {bindings : Bindings} {templates : List String}

/-- With records in use the transaction is one on the cached connection. -/
theorem wp_startManagement_bearing {name database : String}
    (stored : Loads ClusterRecord.decode s.values (StoreKeys.cluster name) (some cluster)) :
    Op.wp (bearing i) (fun tr t => Done [.began tr] s t) (fun _ _ => False)
      (Connections.startManagement name database) s := by
  refine wp_seq (Connections.wp_get_reachable (reachable_bearing i) stored) (fun c t got => ?_)
    fun _ _ => False.elim
  refine wp_seq_lift wp_start_bearing fun r u started => ?_
  obtain ⟨tr, rfl, began⟩ := started
  exact got.trans began

/-- With a deleted record it is one on a connection that is closed afterwards. -/
theorem wp_revokeUncached_carried {database : String} :
    Op.wp (bearing i) (fun warnings t => ∃ tr, Carried tr bindings templates warnings s t) (fun _ _ => False)
      (revokeUncached cluster database bindings templates) s := by
  have reachable := reachable_bearing i
  refine wp_seq (Connections.wp_openUncached_reachable reachable) (fun c t opened => ?_)
    fun _ _ => False.elim
  refine (wp_andAlways ..).2 ((wp_bind_ofSql ..).2 (Program.wp_mono (fun r u started => ?_) wp_start_bearing))
  obtain ⟨tr, rfl, began⟩ := started
  refine wp_mono (wp_revokeWithin (opened.2.trans began)) (fun warnings v carried => ?_) fun _ _ => False.elim
  obtain ⟨attempts, attempted, warned, told⟩ := carried
  have closing : Program.wp (alone i) (fun _ w => Done [] v w) (Connections.closeQuietly c) v :=
    wp_harmless (Program.only_bind (Program.only_call rfl) fun _ => Program.only_pure _)
  refine Program.wp_mono (fun _ w closed => ?_) (reachable.wp closing)
  refine ⟨tr, attempts, attempted, warned, ?_⟩
  simpa using told.trans closed

end

/-! ## Revoking -/

/-- What is reported of a role that is missing. -/
def missing (role : String) : Option RoleRecord → List Warning
  | some _ => []
  | none => [.roleNotFound role]

abbrev bindingsOf (secret : LeaseSecret) (c : ClusterRecord) (d : DatabaseRecord) : Bindings :=
  revokeBindings secret.username secret.database d.objectsOwner c.managementRole

/-- A revocation in a transaction that was committed after these attempts, each failure of which was reported. -/
structure Concluded (secret : LeaseSecret) (role? : Option RoleRecord) (c : ClusterRecord) (d : DatabaseRecord)
    (tr : Transaction) (attempts : List Attempt) (s : Surroundings) (o : Outcome Unit) (t : Surroundings) : Prop where
  attempted : Attempted 0 (revocationList role?) attempts
  warned : o.warnings = missing secret.role role? ++ attempts.filterMap (·.warning?)
  deeds : t.deeds = (trace tr (bindingsOf secret c d) attempts).reverse ++ s.deeds
  values : t.values = s.values
  counts : t.counts = { s.counts with revoked := s.counts.revoked.inc }

variable {secret : LeaseSecret} {role? : Option RoleRecord} {c : ClusterRecord} {d : DatabaseRecord}

theorem wp_revocationPlan (pattern : Loads RoleRecord.decode s.values (StoreKeys.role secret.role) role?) :
    Op.wp (bearing i)
      (fun plan t => s.Untouched t ∧ plan.value = revocationList role? ∧
        plan.warnings = missing secret.role role?)
      (fun _ _ => False) (revocationPlan secret.role) s := by
  refine wp_load_reachable (reachable_bearing i) pattern fun t same => ?_
  cases role? with
  | none => exact ⟨same, rfl, rfl⟩
  | some r => exact ⟨same, rfl, rfl⟩

theorem wp_revokeCredential (pattern : Loads RoleRecord.decode s.values (StoreKeys.role secret.role) role?)
    (stored : Loads ClusterRecord.decode s.values (StoreKeys.cluster secret.cluster) (some c))
    (stored' : Loads DatabaseRecord.decode s.values (StoreKeys.database secret.cluster secret.database) (some d)) :
    Op.wp (bearing i)
      (fun o t => ∃ tr attempts, Concluded secret role? c d tr attempts s o t) (fun _ _ => False)
      (revokeCredential secret) s := by
  have reachable := reachable_bearing i
  refine wp_seq (wp_revocationPlan pattern) (fun plan t planned => ?_) fun _ _ => False.elim
  obtain ⟨same, listed, warned⟩ := planned
  rw [← same.values] at stored stored'
  refine wp_load_reachable reachable stored fun u same' => ?_
  replace same := same.trans same'
  rw [← same'.values] at stored stored'
  refine wp_load_reachable reachable stored' fun v same' => ?_
  replace same := same.trans same'
  rw [← same'.values] at stored
  have ending (warnings : List Warning) (w : Surroundings)
      (carried : ∃ tr, Carried tr (bindingsOf secret c d) plan.value warnings v w) :
      Op.wp (bearing i)
        (fun o t => ∃ tr attempts, Concluded secret role? c d tr attempts s o t) (fun _ _ => False)
        (countRevoked plan.warnings warnings) w := by
    obtain ⟨tr, attempts, attempted, rfl, told⟩ := carried
    replace told := (Done.of_untouched same).trans told
    refine (wp_bind_lift ..).2 (reachable.call fun _ _ _ => ?_)
    refine ⟨tr, attempts, listed ▸ attempted, congrArg (· ++ _) warned, told.deeds, told.values, ?_⟩
    rw [← told.counts]
    rfl
  dsimp only
  split
  · exact wp_seq wp_revokeUncached_carried ending fun _ _ => False.elim
  · refine wp_seq (wp_startManagement_bearing stored) (fun tr w began => ?_) fun _ _ => False.elim
    refine wp_seq (wp_revokeWithin began) (fun warnings x carried => ?_) fun _ _ => False.elim
    exact ending warnings x ⟨tr, carried⟩

/-- A lease of a database that is registered can be revoked, and what is stored stays. -/
theorem runs_revokeCredential (pattern : Loads RoleRecord.decode s.values (StoreKeys.role secret.role) role?)
    (stored : Loads ClusterRecord.decode s.values (StoreKeys.cluster secret.cluster) (some c))
    (stored' : Loads DatabaseRecord.decode s.values (StoreKeys.database secret.cluster secret.database) (some d)) :
    ∃ t, Surroundings.Runs i (Command.revokeCredential secret).op.run s (.ok none) t ∧ t.values = s.values := by
  have ends : Op.wp (bearing i) (fun a t => a = none ∧ t.values = s.values) (fun _ _ => False)
      (Command.revokeCredential secret).op s := by
    refine wp_unkept.2 (wp_mono (wp_revokeCredential pattern stored stored') ?_ fun _ _ => id)
    rintro o t ⟨tr, attempts, concluded⟩
    exact ⟨rfl, concluded.values⟩
  obtain ⟨reply, t, judged⟩ := Program.exists_run (exists_judging (fun _ => .ok ()) i) (Command.revokeCredential secret).op.run s
  have run := Program.runs_wider (fun _ _ _ _ reply => reply.1) judged
  have ended := Program.wp_demonic_iff.1 ends _ _ run
  cases reply with
  | error e => exact ended.elim
  | ok a =>
    obtain ⟨rfl, same⟩ := ended
    exact ⟨t, Program.runs_wider (fun _ _ _ _ reply => (reachable_bearing i).answered reply) run, same⟩

/-- Where records can be read and transactions begin and end, a lease is revoked whatever statements the server rejects:
    in one transaction that is committed and never rolled back, each statement of the list is attempted in its turn, and
    each that fails gives a warning with its place in the list. What is left of it, where the savepoints are in order, is
    what exactly the statements did that ran. -/
theorem revoked_whatever_fails
    (pattern : Loads RoleRecord.decode s.values (StoreKeys.role secret.role) role?)
    (stored : Loads ClusterRecord.decode s.values (StoreKeys.cluster secret.cluster) (some c))
    (stored' : Loads DatabaseRecord.decode s.values (StoreKeys.database secret.cluster secret.database) (some d)) :
    (∀ verdict, ∃ o t, Program.Runs (Judging verdict i) (revokeCredential secret).run s (.ok o) t) ∧
    ∀ reply t, Program.Runs (Bearing i) (revokeCredential secret).run s reply t →
      ∃ o tr attempts, reply = .ok o ∧ Concluded secret role? c d tr attempts s o t ∧
        ((∀ a ∈ attempts, a.fate.Orderly) → ∀ {δ : Type} (effect : String → δ → δ → Prop) (before : δ) (p : Progress δ),
          Progress.Runs effect ⟨before, [], false⟩ (attempts.flatMap (·.statements (bindingsOf secret c d))) p →
          Progress.Changes effect (attempts.filterMap (·.done? (bindingsOf secret c d))) before (p.persisted before)) := by
  have ends := Program.wp_demonic_iff.1 (wp_revokeCredential (i := i) pattern stored stored')
  refine ⟨fun verdict => ?_, fun reply t run => ?_⟩
  · obtain ⟨reply, t, judged⟩ := Program.exists_run (exists_judging verdict i) (revokeCredential secret).run s
    have ended := ends _ _ (Program.runs_wider (fun _ _ _ _ reply => reply.1) judged)
    cases reply with
    | error e => exact ended.elim
    | ok o => exact ⟨o, t, judged⟩
  · have ended := ends _ _ run
    cases reply with
    | error e => exact ended.elim
    | ok o =>
      obtain ⟨tr, attempts, concluded⟩ := ended
      refine ⟨o, tr, attempts, rfl, concluded, fun orderly δ effect before p heard => ?_⟩
      obtain ⟨live, changed⟩ := Progress.runs_attempts orderly rfl heard
      rw [Progress.persisted, live]
      exact changed

/-- The verdict of a server that rejects everything but what has to do with savepoints. -/
def picky (sql : String) : Except SqlError Unit :=
  if sql ∈ Progress.bookkeeping then .ok () else .error (.statement "rejected")

/-- With that verdict every attempt fails, except where a statement of the list has to do with savepoints itself. -/
theorem fate_of_picky {reply : Except BrokerError (Outcome Unit)} {o : Outcome Unit} {tr : Transaction}
    {attempts : List Attempt} {a : Attempt} (run : Program.Runs (Judging picky i) (revokeCredential secret).run s reply t)
    (concluded : Concluded secret role? c d tr attempts s o t) (member : a ∈ attempts)
    (other : a.sql (bindingsOf secret c d) ∉ Progress.bookkeeping) :
    a.fate = .failed (.statement "rejected") (.ok ()) := by
  have reachable : Reachable i (Judging picky i) :=
    ⟨fun reply => (reachable_bearing i).answered reply.1, fun reply => (reachable_bearing i).fetched reply.1,
      fun reply => (reachable_bearing i).connected reply.1⟩
  obtain ⟨ds, later, all⟩ := reachable.deeds (P := fun d => ∀ tr sql a, d = .ran tr sql a → a = picky sql)
    (fun c s r t reply d found tr sql a same => reply.2 tr sql a (same ▸ found)) run
  obtain rfl : ds = _ := List.append_cancel_right (later.symm.trans concluded.deeds)
  have heard (x : Answered) (inside : x ∈ a.statements (bindingsOf secret c d)) : x.2 = picky x.1 := by
    refine all (.ran tr x.1 x.2) (List.mem_reverse.2 ?_) tr x.1 x.2 rfl
    simp only [trace, Transaction.deeds, List.cons_append, List.mem_cons, List.mem_append, List.mem_map, List.mem_flatMap]
    exact .inr (.inl ⟨x, ⟨a, member, inside⟩, rfl⟩)
  have saved : picky Statements.savepoint = .ok () := if_pos List.mem_cons_self
  have restored : picky Statements.rollbackToSavepoint = .ok () := if_pos (by simp [Progress.bookkeeping])
  have rejected : picky (a.sql (bindingsOf secret c d)) = .error (.statement "rejected") := if_neg other
  obtain ⟨index, template, fate⟩ := a
  cases fate with
  | barred e => cases (heard _ List.mem_cons_self).trans saved
  | failed e back =>
    obtain rfl : e = .statement "rejected" :=
      Except.error.inj ((heard _ (List.mem_cons_of_mem _ List.mem_cons_self)).trans rejected)
    have answered : back = picky Statements.rollbackToSavepoint :=
      heard (_, back) (List.mem_cons_of_mem _ (List.mem_cons_of_mem _ List.mem_cons_self))
    rw [answered, restored]
  | ran released => cases (heard _ (List.mem_cons_of_mem _ List.mem_cons_self)).trans rejected

/-- A role whose list has a blank before its only statement. -/
def nonsenseRole : RoleRequest := { revocation := [" ", "nonsense"] }

def nonsenseLease : LeaseSecret := { role := "reader", username := "login", cluster := "main", database := "app" }

/-- The only statement that is not blank is rejected. The lease is revoked all the same, with a warning that bears the
    place of the statement in the list, and nothing is left of the statement. -/
theorem revoked_with_warning : ∃ log s t o tr c d, ∃ attempts : List Attempt,
    Session log s ∧ Program.Runs (Bearing 0) (revokeCredential nonsenseLease).run s (.ok o) t ∧
      Concluded nonsenseLease (some (Command.requestedRole {} nonsenseRole)) c d tr attempts s o t ∧
      attempts = [⟨1, "nonsense", .failed (.statement "rejected") (.ok ())⟩] ∧
      ∀ (before : Nat) (p : Progress Nat), Progress.Runs (fun _ n m => m = n + 1) ⟨before, [], false⟩
        (attempts.flatMap (·.statements (bindingsOf nonsenseLease c d))) p → p.persisted before = before := by
  obtain ⟨_, _, s, c, d, session, stored, -, stored', -, pattern⟩ :=
    Session.exists_registered {} nonsenseRole (by decide +kernel)
  replace stored : Loads _ s.values (StoreKeys.cluster nonsenseLease.cluster) _ := stored
  replace stored' : Loads _ s.values (StoreKeys.database nonsenseLease.cluster nonsenseLease.database) _ := stored'
  replace pattern : Loads _ s.values (StoreKeys.role nonsenseLease.role) _ := pattern
  obtain ⟨runs, ends⟩ := revoked_whatever_fails (i := 0) pattern stored stored'
  obtain ⟨o, t, judged⟩ := runs picky
  have run : Program.Runs (Bearing 0) _ s _ t := Program.runs_wider (fun _ _ _ _ reply => reply.1) judged
  obtain ⟨o, tr, attempts, ⟨⟩, concluded, left⟩ := ends _ _ run
  have places : places 0 (revocationList (some (Command.requestedRole {} nonsenseRole))) = [(1, "nonsense")] := by
    decide +kernel
  have one : attempts = [⟨1, "nonsense", .failed (.statement "rejected") (.ok ())⟩] := by
    have attempted := concluded.attempted.trans places
    obtain ⟨⟨index, template, fate⟩, rfl⟩ : ∃ a, attempts = [a] :=
      List.length_eq_one_iff.1 (by simpa using congrArg List.length attempted)
    obtain ⟨first, second⟩ : index = 1 ∧ template = "nonsense" := by simpa using attempted
    have pieces : Template.pieces "nonsense".toList = [.plain "nonsense".toList] := by decide +kernel
    have written (b : Bindings) : render "nonsense" b = "nonsense" := by
      rw [render, Template.renderChars, pieces, List.flatMap_cons, List.flatMap_nil, List.append_nil]
      exact String.ofList_toList
    have failed : fate = .failed (.statement "rejected") (.ok ()) := by
      refine fate_of_picky judged concluded List.mem_cons_self ?_
      rw [Attempt.sql, second, written]
      decide +kernel
    rw [first, second, failed]
  refine ⟨_, s, t, o, tr, c, d, attempts, session, run, concluded, one, fun before p heard => ?_⟩
  have changed := left (by simp [one, Fate.Orderly]) _ before p heard
  have none : attempts.filterMap (·.done? (bindingsOf nonsenseLease c d)) = [] := by
    rw [one]
    rfl
  rw [none] at changed
  generalize p.persisted before = persisted at changed ⊢
  cases changed
  rfl

end Credentials

end LeaseBroker
