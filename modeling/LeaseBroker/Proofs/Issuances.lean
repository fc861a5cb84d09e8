import LeaseBroker.Proofs.ConnectionUse
import LeaseBroker.Proofs.TransactionTraces

/-!
How a credential is issued once the transaction for it has begun: all of its
statements are run and the transaction is committed, or one statement is the
first that fails and the transaction is rolled back (`Issuance`). Either nothing
was done or it is so (`wp_issueCredential_ends`). There is at least one statement
(`makers_ne_nil`), because the built-in ones stand in where all of a role's are
blank, so no credential is without a statement that made its login.
-/
namespace LeaseBroker

open Op
open Surroundings (alone Calm Done Resting done_of_deed)
open Template (render)

/-- What comes of a program comes with a run of it. -/
theorem Op.wp_with_run {α : Type} {i : Nat} {s : Surroundings} {ok : α → Surroundings → Prop}
    {fail : BrokerError → Surroundings → Prop} {p : Op α} (h : Op.wp (alone i) ok fail p s) :
    Op.wp (alone i) (fun a t => ok a t ∧ Surroundings.Runs i p.run s (.ok a) t)
      (fun e t => fail e t ∧ Surroundings.Runs i p.run s (.error e) t) p s := by
  refine Program.wp_demonic_iff.2 fun r t run => ?_
  have ended := Program.wp_demonic_iff.1 h r t run
  cases r with
  | ok a => exact ⟨ended, run⟩
  | error e => exact ⟨ended, run⟩

namespace Credentials

variable {i : Nat} {s t : Surroundings}

/-! ## The statements that make a login -/

/-- The list that a role has for new logins, if it has one. -/
def creationList (r : RoleRecord) : List String :=
  if r.creation.all Blank.isBlankText then Statements.creation else r.creation

/-- The statements that make a login, as the server gets them; blank ones are left out. -/
def makers (r : RoleRecord) (bindings : Bindings) : List String :=
  ((creationList r).filter (!Blank.isBlankText ·)).map fun template => render (Blank.trimText template) bindings

theorem map_render_trimmed (r : RoleRecord) (bindings : Bindings) :
    (trimmed r.creationStatements).map (render · bindings) = makers r bindings := by
  show (List.filter _ ((creationList r).map Blank.trimText)).map _ = _
  rw [List.filter_map, List.map_map]
  refine congrArg (List.map _) (List.filter_congr fun template _ => ?_)
  rw [Function.comp_apply, Blank.isEmpty_trimText]

/-- A list that is not all blank has a statement, and so have the built-in ones. -/
theorem makers_ne_nil (r : RoleRecord) (bindings : Bindings) : makers r bindings ≠ [] := by
  have written : ∃ template ∈ creationList r, Blank.isBlankText template = false := by
    unfold creationList
    split
    · exact ⟨_, List.mem_cons_self, by decide +kernel⟩
    · rename_i other
      simpa using other
  obtain ⟨template, member, written⟩ := written
  refine List.ne_nil_of_mem (List.mem_map_of_mem (List.mem_filter.2 ⟨member, ?_⟩))
  rw [written]
  rfl

/-! ## Issuing -/

/-- How an issue ends once its transaction has begun: what was done there, what is counted then, and the result. -/
inductive Issuance (tr : Transaction) (statements : List String) (credential : Credential) (counts : Counts) :
    List Deed → Counts → Except BrokerError Credential → Prop
  | granted : Issuance tr statements credential counts
      (statements.map (.ran tr · (.ok ())) ++ [.committed tr (.ok ())])
      { counts with issued := counts.issued.inc } (.ok credential)
  | uncommitted (e : SqlError) : Issuance tr statements credential counts
      (statements.map (.ran tr · (.ok ())) ++ [.committed tr (.error e)]) counts (.error (.sql e))
  /-- Whether rolling back succeeds makes no difference. -/
  | undone {before : List String} {sql : String} {rest : List String} (split : statements = before ++ sql :: rest)
      (e : SqlError) (r : Except SqlError Unit) : Issuance tr statements credential counts
      (before.map (.ran tr · (.ok ())) ++ [.ran tr sql (.error e), .rolledBack tr r]) counts (.error (.sql e))

/-- What is returned is the credential that was made. -/
theorem Issuance.eq_of_ok {tr : Transaction} {statements : List String} {credential a : Credential} {counts counts' : Counts}
    {deeds : List Deed} (h : Issuance tr statements credential counts deeds counts' (.ok a)) : a = credential := by
  cases h
  rfl

/-- A transaction ended in this way, and nothing else was done since `s`. -/
structure Closed (tr : Transaction) (statements : List String) (credential : Credential) (s : Surroundings)
    (reply : Except BrokerError Credential) (t : Surroundings) (deeds : List Deed) : Prop where
  issuance : Issuance tr statements credential s.counts deeds t.counts reply
  deeds : t.deeds = (.began tr :: deeds).reverse ++ s.deeds
  values : t.values = s.values

theorem Closed.begun {tr : Transaction} {statements : List String} {credential : Credential}
    {reply : Except BrokerError Credential} {deeds : List Deed} (h : Closed tr statements credential s reply t deeds) :
    t.begun ≠ s.begun := by
  intro same
  have longer := congrArg List.length same
  rw [Surroundings.begun_eq, Surroundings.begun_eq s, h.deeds] at longer
  simp only [List.reverse_cons, List.append_assoc, List.filterMap_append, List.length_append, List.filterMap_cons,
    Deed.begun?, List.length_cons] at longer
  omega

/-- The rest of an issue, once its statements have come to an end. -/
def conclude (tr : Transaction) (credential : Credential) : Except SqlError Unit → Op Credential
  | .error e => do
    Fleet.rollbackQuietly tr
    throw (.sql e)
  | .ok () => do
    Op.ofSql (Program.commit tr)
    Program.tally .issued
    return credential

theorem wp_conclude {tr : Transaction} {statements : List String} (credential : Credential) {result : Except SqlError Unit}
    {deeds : List Deed} (ran : Ran tr statements result deeds) (told : Done (.began tr :: deeds) s t) :
    Op.wp (alone i) (fun a u => a = credential ∧ ∃ deeds, Closed tr statements credential s (.ok a) u deeds)
      (fun e u => ∃ deeds, Closed tr statements credential s (.error e) u deeds) (conclude tr credential result) t := by
  cases ran with
  | all =>
    refine (wp_bind_ofSql ..).2 (Surroundings.alone_iff.2 fun committed _ => ?_)
    have ended : Done (.began tr :: (statements.map (.ran tr · (.ok ())) ++ [.committed tr committed])) s
        (t.after i (.commit tr) committed) := told.trans (done_of_deed rfl)
    cases committed with
    | error e => exact ⟨_, ended.counts ▸ .uncommitted e, ended.deeds, ended.values⟩
    | ok _ =>
      refine (wp_bind_lift ..).2 (Surroundings.alone_iff.2 fun _ _ => ?_)
      refine ⟨rfl, _, ?_, ended.deeds, ended.values⟩
      have counted : { s.counts with issued := s.counts.issued.inc } =
          ((t.after i (.commit tr) (.ok ())).after i (.tally .issued) ()).counts := by
        rw [← ended.counts]
        rfl
      exact counted ▸ .granted
  | failed before sql rest e =>
    refine (wp_bind_lift ..).2 ((Program.wp_bind ..).2 (Surroundings.alone_iff.2 fun r _ => ?_))
    have ended := told.trans (done_of_deed (i := i) (s := t) (r := r) (rfl : Event.deed? ⟨i, .rollback tr, r⟩ = _))
    refine ⟨before.map (.ran tr · (.ok ())) ++ [.ran tr sql (.error e), .rolledBack tr r], ?_, ?_, ended.values⟩
    · show Issuance _ _ _ _ _ (t.after i (.rollback tr) r).counts _
      rw [ended.counts]
      exact .undone rfl e r
    · show (t.after i (.rollback tr) r).deeds = _
      rw [ended.deeds]
      simp

theorem wp_carryOut {tr : Transaction} {bindings : Bindings} {templates : List String} (credential : Credential)
    (told : Done [.began tr] s t) :
    Op.wp (alone i)
      (fun a u => a = credential ∧ ∃ deeds, Closed tr (templates.map (render · bindings)) credential s (.ok a) u deeds)
      (fun e u => ∃ deeds, Closed tr (templates.map (render · bindings)) credential s (.error e) u deeds)
      (do
        let result ← liftM (Fleet.runEach tr bindings templates)
        conclude tr credential result) t := by
  refine wp_seq_lift (Fleet.wp_runEach_ran templates) fun result u ended => ?_
  obtain ⟨deeds, ran, done⟩ := ended
  exact wp_conclude credential ran (told.trans done)

section
variable {settings : Settings} {cluster name role displayName : String} {c : ClusterRecord} {d : DatabaseRecord}
  {r : RoleRecord}

/-- The transaction was begun on the way from `s` to `t`, on a connection to manage the database, after things had been
    asked for only. If all that was cached for the cluster led where its record says, so does that connection. -/
structure Managed (cluster name : String) (c : ClusterRecord) (i : Nat) (s t : Surroundings) (tr : Transaction) : Prop where
  begun : ∃ u v, s.Asked u ∧ Surroundings.Runs i (Connections.startManagement cluster name).run u (.ok tr) v ∧
    Done [.began tr] u v ∧ v.history <:+ t.history
  target : Resting cluster s → tr.connection.target = c.target .management name

/-- An issue whose transaction has begun: for active records, on the management connection, with the statements of the
    role for the login that is made. -/
structure Settled (cluster name role : String) (c : ClusterRecord) (d : DatabaseRecord) (r : RoleRecord) (i : Nat)
    (s : Surroundings) (reply : Except BrokerError Credential) (t : Surroundings) (tr : Transaction)
    (credential : Credential) (validUntil : String) (deeds : List Deed) : Prop where
  active : c.disabled = false ∧ d.disabled = false
  secret : credential.secret = { role, username := credential.username, cluster, database := name }
  management : Managed cluster name c i s t tr
  closed : Closed tr (makers r (issueBindings credential.username credential.password validUntil d.objectsOwner
    c.managementRole)) credential s reply t deeds

/-- Issuing does nothing, or begins a transaction and ends it. -/
theorem wp_issueCredential_ends (stored : Loads ClusterRecord.decode s.values (StoreKeys.cluster cluster) (some c))
    (stored' : Loads DatabaseRecord.decode s.values (StoreKeys.database cluster name) (some d))
    (pattern : Loads RoleRecord.decode s.values (StoreKeys.role role) (some r)) :
    Op.wp (alone i)
      (fun credential t => ∃ tr validUntil deeds,
        Settled cluster name role c d r i s (.ok credential) t tr credential validUntil deeds)
      (fun e t => Done [] s t ∨ ∃ tr credential validUntil deeds,
        Settled cluster name role c d r i s (.error e) t tr credential validUntil deeds)
      (issueCredential settings cluster name role displayName) s := by
  have idle {t : Surroundings} (asked : s.Asked t) : Done [] s t := .of_untouched asked.untouched
  refine Surroundings.wp_load_asked (.refl s) (fun _ _ asked => .inl (idle asked)) fun c? t loads asked => ?_
  obtain rfl := loads_eq loads stored
  refine wp_unless (.inl (idle asked)) fun active => ?_
  refine Surroundings.wp_load_asked asked (fun _ _ asked => .inl (idle asked)) fun d? t loads asked => ?_
  obtain rfl := loads_eq loads stored'
  refine wp_unless (.inl (idle asked)) fun active' => ?_
  refine Surroundings.wp_load_asked asked (fun _ _ asked => .inl (idle asked)) fun r? t loads asked => ?_
  obtain rfl := loads_eq loads pattern
  refine Surroundings.wp_bind_asked asked (fun _ _ asked => .inl (idle asked)) (only_lift (Program.only_call rfl))
    fun id t asked => ?_
  refine Surroundings.wp_bind_asked asked (fun _ _ asked => .inl (idle asked)) (only_lift (Program.only_call rfl))
    fun password t asked => ?_
  refine Surroundings.wp_bind_asked asked (fun _ _ asked => .inl (idle asked)) (only_lift (Program.only_call rfl))
    fun now u asked => ?_
  have same := idle asked
  have stored_u : Loads ClusterRecord.decode u.values (StoreKeys.cluster cluster) (some c) := by
    rwa [Loads, same.values]
  refine wp_seq (Op.wp_with_run (Connections.wp_startManagement_led stored_u)) (fun tr v started => ?_)
    fun _ _ nothing => .inl (same.trans nothing.1)
  obtain ⟨⟨began, leads⟩, run⟩ := started
  let credential : Credential :=
    { username := Names.login displayName id, password
      secret := { role, username := Names.login displayName id, cluster, database := name }
      ttl := r.defaultSpan, maxTtl := r.maxSpan }
  have managed {w : Surroundings} (grown : v.history <:+ w.history) : Managed cluster name c i s w tr := by
    refine ⟨⟨u, v, asked, run, began, grown⟩, fun resting => leads ?_⟩
    exact (Calm.untouched ⟨rfl, resting⟩ asked.untouched).resting
  refine wp_mono (Op.wp_with_run (wp_carryOut credential (same.trans began))) (fun a w ended => ?_) fun e w ended => ?_
  · obtain ⟨⟨rfl, deeds, closed⟩, rest⟩ := ended
    rw [map_render_trimmed] at closed
    exact ⟨tr, _, deeds, ⟨active, active'⟩, rfl, managed (Surroundings.history_grows rest), closed⟩
  · obtain ⟨⟨deeds, closed⟩, rest⟩ := ended
    rw [map_render_trimmed] at closed
    exact .inr ⟨tr, credential, _, deeds, ⟨active, active'⟩, rfl, managed (Surroundings.history_grows rest), closed⟩

/-- Once the transaction of an issue has begun, which is the one to manage the database, the role has statements to run,
    at least one. Either all of them run in order and the transaction is committed, and then the credential that they made
    is returned and counted, or they are run to the first that fails, and then the transaction is rolled back and that
    failure returned, however the rollback ends. Nothing is stored. -/
theorem issued_all_or_nothing {reply : Except BrokerError Credential}
    (stored : Loads ClusterRecord.decode s.values (StoreKeys.cluster cluster) (some c))
    (stored' : Loads DatabaseRecord.decode s.values (StoreKeys.database cluster name) (some d))
    (pattern : Loads RoleRecord.decode s.values (StoreKeys.role role) (some r))
    (run : Surroundings.Runs i (issueCredential settings cluster name role displayName).run s reply t)
    (began : t.begun ≠ s.begun) :
    ∃ tr credential validUntil deeds, Settled cluster name role c d r i s reply t tr credential validUntil deeds ∧
      makers r (issueBindings credential.username credential.password validUntil d.objectsOwner c.managementRole) ≠ [] := by
  have ended := Program.wp_demonic_iff.1 (wp_issueCredential_ends stored stored' pattern) _ _ run
  cases reply with
  | ok credential =>
    obtain ⟨tr, validUntil, deeds, settled⟩ := ended
    exact ⟨tr, credential, validUntil, deeds, settled, makers_ne_nil _ _⟩
  | error e =>
    rcases ended with nothing | ⟨tr, credential, validUntil, deeds, settled⟩
    · exact absurd nothing.begun began
    · exact ⟨tr, credential, validUntil, deeds, settled, makers_ne_nil _ _⟩

end

/-- A credential can be issued by the built-in statements, where the record of the cluster leads. -/
theorem issued_by_statements : ∃ log s t c d tr credential validUntil deeds,
    Session log s ∧ Surroundings.Runs 0 (issueCredential {} "main" "app" "reader" "alice").run s (.ok credential) t ∧
      t.begun ≠ s.begun ∧ tr.connection.target = c.target .management "app" ∧
      Settled "main" "app" "reader" c d (Command.requestedRole {} {}) 0 s (.ok credential) t tr credential validUntil deeds := by
  obtain ⟨_, _, s, c, d, session, stored, active, stored', active', pattern⟩ :=
    Session.exists_registered {} {} (by decide +kernel)
  obtain ⟨reply, t, run, ended⟩ := Program.wp_angelic_iff.1
    (wp_lucky_issueCredential (i := 0) {} "alice" (.ofSecs 0) stored active stored' active' pattern)
  cases reply with
  | error e => exact ended.elim
  | ok credential =>
    obtain ⟨_, _, _, settled⟩ := Program.wp_demonic_iff.1 (wp_issueCredential_ends stored stored' pattern) _ _ run
    have began := settled.closed.begun
    obtain ⟨tr, issued, validUntil, deeds, settled, -⟩ := issued_all_or_nothing stored stored' pattern run began
    obtain rfl : credential = issued := settled.closed.issuance.eq_of_ok
    have leads := settled.management.target (session.resting (by decide +kernel))
    exact ⟨_, s, t, c, d, tr, credential, validUntil, deeds, session, run, began, leads, settled⟩

end Credentials

end LeaseBroker
