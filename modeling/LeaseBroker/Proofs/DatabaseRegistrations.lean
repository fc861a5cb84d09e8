import LeaseBroker.Proofs.ClusterRegistrations
import LeaseBroker.Proofs.Memberships
import LeaseBroker.Proofs.OwnerNames

/-!
How a database is registered. What is done for it on its server is a plan that
the request fixes (`Fleet.plan`): the database is created over the root
connection, and the owner of its objects is made and given its privileges in one
transaction over the management connection. A registration follows the plan up to
its end or up to the first step that fails (`Halted`), of which only a statement
of the transaction has anything done for it, a rollback. The record is written
after the whole plan, and after that there is nothing.
-/
namespace LeaseBroker

open Op
open Surroundings (alone alone_iff Done Resting)
open Template (render pieces slot Piece renderChars)

variable {α : Type} {i : Nat} {s t : Surroundings}

/-- Whether the call is one to the store, or draws a UUID. -/
def Call.files : Call → Bool
  | fetch _ | put .. | uuid => true
  | _ => false

open Surroundings (smooth Faulty labour_smooth reachable_smooth)

/-! ## The statements -/

/-- A template of some text and a slot at its end becomes the text and what fills the slot. -/
theorem render_of_pieces {template text name : String} {bindings : Bindings} {fragment : Fragment}
    (parts : pieces template.toList = [.plain text.toList, .slot name.toList, .plain []]) (known : name ∈ slotNames)
    (bound : bindings.get? name = some fragment) : render template bindings = text ++ fragment.sql := by
  rw [← String.toList_inj, render, renderChars, parts, String.toList_ofList, String.toList_append, Fragment.sql,
    String.toList_ofList, List.flatMap_cons, List.flatMap_cons, fill_slot name known bound]
  simp [Piece.fill]

namespace Fleet

/-- The statement that creates a database. -/
def databaseCreation (name : String) : String := "create database " ++ (Fragment.identifier name).sql

/-- The statement that creates the owner of a database's objects. -/
def ownerCreation (c : ClusterRecord) (owner : String) : String :=
  RoleCreation.sql ⟨owner, [], c.managementRole, [c.username]⟩

/-- The statement that gives the owner its privileges. -/
def ownerGrant (owner : String) : String :=
  "grant all privileges on all tables in schema public to " ++ (Fragment.identifier owner).sql

theorem render_createDatabase (name : String) :
    render Statements.createDatabase (Bindings.empty.identifier "database" name) = databaseCreation name := by
  have parts : pieces Statements.createDatabase.toList =
      [.plain "create database ".toList, .slot "database".toList, .plain []] := by
    unfold Statements.createDatabase
    simp only [String.toList_append]
    decide +kernel
  exact render_of_pieces parts (by simp [slotNames]) rfl

theorem render_grantAllToOwner (c : ClusterRecord) (owner : String) :
    render Statements.grantAllToOwner (objectsOwnerBindings c owner) = ownerGrant owner := by
  have parts : pieces Statements.grantAllToOwner.toList =
      [.plain "grant all privileges on all tables in schema public to ".toList, .slot "role_name".toList, .plain []] := by
    unfold Statements.grantAllToOwner
    simp only [String.toList_append]
    decide +kernel
  exact render_of_pieces parts (by simp [slotNames]) (get?_objectsOwnerBindings c owner).1

/-! ## Plans and how they are broken off -/

/-- What is done in the transaction that makes the owner, if all of it succeeds. -/
def ownerPlan (c : ClusterRecord) (owner : String) (tr : Transaction) : List Deed :=
  [.began tr, .ran tr (ownerCreation c owner) (.ok ()), .ran tr (ownerGrant owner) (.ok ()), .committed tr (.ok ())]

/-- What is done on servers for a database, if all of it succeeds. -/
def plan (c : ClusterRecord) (name owner : String) (request : DatabaseRequest) (root : Connection) (tr : Transaction) :
    List Deed :=
  if request.provision then
    (if request.createDatabase then [.executed root (databaseCreation name) (.ok ())] else []) ++ ownerPlan c owner tr
  else []

/-- What is done in the place of a step that fails: a statement of a transaction is followed by a rollback, and of what
    needs a connection that cannot be had nothing is done. -/
inductive Breaks : Deed → List Deed → Prop
  | unconnected (root : Connection) (sql : String) : Breaks (.executed root sql (.ok ())) []
  | unexecuted (root : Connection) (sql : String) (e : SqlError) :
      Breaks (.executed root sql (.ok ())) [.executed root sql (.error e)]
  | unbegun (tr : Transaction) : Breaks (.began tr) []
  | undone (tr : Transaction) (sql : String) (e : SqlError) (r : Except SqlError Unit) :
      Breaks (.ran tr sql (.ok ())) [.ran tr sql (.error e), .rolledBack tr r]
  | uncommitted (tr : Transaction) (e : SqlError) : Breaks (.committed tr (.ok ())) [.committed tr (.error e)]

/-- The plan was followed up to a step that failed, and no further. -/
def Halted (plan deeds : List Deed) : Prop :=
  ∃ before step after instead, plan = before ++ step :: after ∧ Breaks step instead ∧ deeds = before ++ instead

theorem Halted.append {plan deeds : List Deed} (h : Halted plan deeds) (first : List Deed) :
    Halted (first ++ plan) (first ++ deeds) := by
  obtain ⟨before, step, after, instead, rfl, breaks, rfl⟩ := h
  exact ⟨first ++ before, step, after, instead, by rw [List.append_assoc], breaks, by rw [List.append_assoc]⟩

theorem deeds_of_ran {tr : Transaction} {statements : List String} {deeds : List Deed} (ran : Ran tr statements (.ok ()) deeds) :
    deeds = statements.map (.ran tr · (.ok ())) := by
  cases ran
  rfl

/-- Statements of which one fails break a transaction off. -/
theorem halted_of_ran {tr : Transaction} {statements : List String} {e : SqlError} {deeds : List Deed}
    (ran : Ran tr statements (.error e) deeds) (rest : List Deed) (r : Except SqlError Unit) :
    Halted (statements.map (.ran tr · (.ok ())) ++ rest) (deeds ++ [.rolledBack tr r]) := by
  cases ran with
  | failed before sql after =>
    refine ⟨before.map (.ran tr · (.ok ())), _, after.map (.ran tr · (.ok ())) ++ rest, _, ?_, .undone tr sql e r, ?_⟩
    · rw [List.map_append, List.append_assoc]
      rfl
    · rw [List.append_assoc]
      rfl

/-! ## Following the plan -/

section
variable {c : ClusterRecord} {cluster name owner : String}

/-- The owner is made by the plan, or that is broken off. -/
theorem wp_makeOwner (stored : Loads ClusterRecord.decode s.values (StoreKeys.cluster cluster) (some c)) :
    Op.wp (alone i)
      (fun _ t => ∃ tr, (Resting cluster s → tr.connection.target = c.target .management name) ∧ Done (ownerPlan c owner tr) s t)
      (fun _ t => ∃ tr deeds, (Resting cluster s → tr.connection.target = c.target .management name) ∧
        Halted (ownerPlan c owner tr) deeds ∧ Done deeds s t)
      (provisionDatabase c cluster name owner false) s := by
  refine wp_seq (Connections.wp_startManagement_led stored) (fun tr t begun => ?_) fun _ t nothing => ?_
  case refine_2 =>
    -- A transaction that did not begin stands for any on such a connection.
    exact ⟨⟨0, 0, c.target .management name⟩, [], fun _ => rfl, ⟨[], _, _, [], rfl, .unbegun _, rfl⟩, nothing⟩
  obtain ⟨began, leads⟩ := begun
  refine wp_seq_lift (wp_runEach_ran _) fun ran u ended => ?_
  obtain ⟨deeds, statements, done⟩ := ended
  rw [List.map_cons, List.map_cons, List.map_nil, render_createObjectsOwner, render_grantAllToOwner] at statements
  change Ran tr [ownerCreation c owner, ownerGrant owner] _ _ at statements
  have told := began.trans done
  cases ran with
  | error e =>
    refine (wp_bind_lift ..).2 (alone_iff.2 fun r _ => ?_)
    refine ⟨tr, _, leads, ?_, told.trans (Surroundings.done_of_deed (d := .rolledBack tr r) rfl)⟩
    exact (halted_of_ran statements [.committed tr (.ok ())] r).append [.began tr]
  | ok _ =>
    obtain rfl := deeds_of_ran statements
    refine (wp_ofSql _).2 (alone_iff.2 fun committed _ => ?_)
    cases committed with
    | ok _ => exact ⟨tr, leads, told.trans (Surroundings.done_of_deed rfl)⟩
    | error e =>
      refine ⟨tr, _, leads, ?_, told.trans (Surroundings.done_of_deed (d := .committed tr (.error e)) rfl)⟩
      exact ⟨[_, _, _], _, [], _, rfl, .uncommitted tr e, rfl⟩

/-- The connections of a plan lead where the record of the cluster says, if those do that are cached. -/
def Placed (cluster : String) (c : ClusterRecord) (name : String) (s : Surroundings) (root : Connection) (tr : Transaction) : Prop :=
  Resting cluster s → root.target = c.target .root c.database ∧ tr.connection.target = c.target .management name

/-- A database is provisioned by the plan, or that is broken off. -/
theorem wp_provisionDatabase_plan {request : DatabaseRequest} (provision : request.provision = true)
    (stored : Loads ClusterRecord.decode s.values (StoreKeys.cluster cluster) (some c)) :
    Op.wp (alone i)
      (fun _ t => ∃ root tr, Placed cluster c name s root tr ∧ Done (plan c name owner request root tr) s t)
      (fun _ t => ∃ root tr deeds, Placed cluster c name s root tr ∧ Halted (plan c name owner request root tr) deeds ∧
        Done deeds s t)
      (provisionDatabase c cluster name owner request.createDatabase) s := by
  let unused : Connection := ⟨0, c.target .root c.database⟩
  cases creating : request.createDatabase with
  | false =>
    have planned (root : Connection) (tr : Transaction) : plan c name owner request root tr = ownerPlan c owner tr := by
      unfold plan
      rw [provision, creating]
      rfl
    refine wp_mono (wp_makeOwner stored) (fun _ t made => ?_) fun _ t failed => ?_
    · obtain ⟨tr, leads, done⟩ := made
      exact ⟨unused, tr, fun rests => ⟨rfl, leads rests⟩, planned unused tr ▸ done⟩
    · obtain ⟨tr, deeds, leads, halted, done⟩ := failed
      exact ⟨unused, tr, deeds, fun rests => ⟨rfl, leads rests⟩, planned unused tr ▸ halted, done⟩
  | true =>
    have planned (root : Connection) (tr : Transaction) : plan c name owner request root tr =
        [.executed root (databaseCreation name) (.ok ())] ++ ownerPlan c owner tr := by
      unfold plan
      rw [provision, creating]
      rfl
    let unbegun : Transaction := ⟨0, 0, c.target .management name⟩
    refine wp_seq (Connections.wp_get_led rfl stored) (fun root t got => ?_) fun _ t nothing => ?_
    case refine_2 =>
      refine ⟨unused, unbegun, [], fun _ => ⟨rfl, rfl⟩, ?_, nothing⟩
      exact ⟨[], _, _, [], planned unused unbegun, .unconnected _ _, rfl⟩
    obtain ⟨nothing, leads⟩ := got
    dsimp only
    rw [render_createDatabase]
    refine (wp_bind_inContext ..).2 ((wp_ofSql _).2 (alone_iff.2 fun created _ => ?_))
    have told : Done [.executed root (databaseCreation name) created] s
        (t.after i (.execute root (databaseCreation name)) created) := nothing.trans (Surroundings.done_of_deed rfl)
    cases created with
    | error e =>
      refine ⟨root, unbegun, _, fun rests => ⟨(leads rests).2, rfl⟩, ?_, told⟩
      exact ⟨[], _, _, _, planned root unbegun, .unexecuted root _ e, rfl⟩
    | ok _ =>
      have rested (rests : Resting cluster s) : Resting cluster
          (t.after i (.execute root (databaseCreation name)) (.ok ())) := (leads rests).1.after rfl rfl
      have stored' : Loads ClusterRecord.decode (t.after i (.execute root (databaseCreation name)) (.ok ())).values
          (StoreKeys.cluster cluster) (some c) := by rwa [Loads, told.values]
      refine wp_mono (wp_makeOwner stored') (fun _ u made => ?_) fun _ u failed => ?_
      · obtain ⟨tr, leads', done⟩ := made
        refine ⟨root, tr, fun rests => ⟨(leads rests).2, leads' (rested rests)⟩, ?_⟩
        rw [planned]
        exact told.trans done
      · obtain ⟨tr, deeds, leads', halted, done⟩ := failed
        refine ⟨root, tr, _, fun rests => ⟨(leads rests).2, leads' (rested rests)⟩, ?_, told.trans done⟩
        rw [planned]
        exact halted.append _

end

/-! ## How a registration ends -/

/-- What is written for a database. -/
def databaseRecord (cluster name owner : String) : DatabaseRecord :=
  { cluster, database := name, objectsOwner := owner, disabled := false }

/-- How the registration of a database ends: the record is written last, after all of the plan. -/
inductive Ending (i : Nat) (plan : List Deed) (record : DatabaseRecord) (s : Surroundings) :
    Except BrokerError (Outcome DatabaseRecord) → Surroundings → Prop
  /-- The store failed before anything was done. -/
  | unread {t : Surroundings} (same : s.Untouched t) (e : BrokerError) : Ending i plan record s (.error e) t
  | halted {t : Surroundings} {deeds : List Deed} (halted : Halted plan deeds) (done : Done deeds s t) (e : BrokerError) :
      Ending i plan record s (.error e) t
  | unstored {u : Surroundings} (done : Done plan s u) (failure : StoreError) (e : BrokerError) :
      Ending i plan record s (.error e)
        (u.after i (.put (StoreKeys.database record.cluster record.database) record.encode) (.error failure))
  | stored {u : Surroundings} (done : Done plan s u) :
      Ending i plan record s (.ok { value := record })
        (u.after i (.put (StoreKeys.database record.cluster record.database) record.encode) (.ok ()))

/-- What is said of the owner of a database's objects. -/
def Owns (request : DatabaseRequest) (name owner : String) : Prop :=
  if request.objectsOwner.isEmpty then ∃ id, owner = Names.objectsOwner name id
  else Octets.Longest Names.identifierLimit request.objectsOwner owner

theorem Eligible.owns {request : DatabaseRequest} {name owner : String} (h : Eligible name request.objectsOwner owner) :
    Owns request name owner := by
  unfold Owns
  unfold Eligible at h
  split
  case isTrue unnamed => rwa [if_pos unnamed] at h
  case isFalse named =>
    rw [if_neg named] at h
    subst h
    exact Octets.longest_truncate ..

section
variable {c : ClusterRecord} {cluster name : String} {request : DatabaseRequest}

/-- Some owner was chosen, and with it the registration ended. -/
def Ends (i : Nat) (c : ClusterRecord) (cluster name : String) (request : DatabaseRequest) (s : Surroundings)
    (reply : Except BrokerError (Outcome DatabaseRecord)) (t : Surroundings) : Prop :=
  ∃ owner root tr, Owns request name owner ∧ Placed cluster c name s root tr ∧
    Ending i (plan c name owner request root tr) (databaseRecord cluster name owner) s reply t

/-- Once all of the plan was done the record is written, with and without provisioning. -/
theorem wp_saveDatabase_ends {owner : String} {root : Connection} {tr : Transaction} (owns : Owns request name owner)
    (placed : Placed cluster c name s root tr) (done : Done (plan c name owner request root tr) s t) :
    Op.wp (alone i) (fun a t => Ends i c cluster name request s (.ok a) t)
      (fun e t => Ends i c cluster name request s (.error e) t)
      (do
        saveDatabase cluster name (databaseRecord cluster name owner)
        return { value := databaseRecord cluster name owner }) t := by
  refine (wp_bind_ofStore ..).2 (alone_iff.2 fun stored _ => ?_)
  cases stored with
  | error failure => exact ⟨owner, root, tr, owns, placed, .unstored done failure _⟩
  | ok _ => exact ⟨owner, root, tr, owns, placed, .stored done⟩

/-- A registration ends in one of these ways. -/
theorem wp_registerDatabase_ending (named : Names.isName cluster) (named' : Names.isName name)
    (stored : Loads ClusterRecord.decode s.values (StoreKeys.cluster cluster) (some c)) (active : c.disabled = false)
    (unregistered : s.values.get? (StoreKeys.database cluster name) = none) :
    Op.wp (alone i) (fun a t => Ends i c cluster name request s (.ok a) t) (fun e t => Ends i c cluster name request s (.error e) t)
      (registerDatabase cluster name request) s := by
  have unread {t : Surroundings} (same : s.Untouched t) (e : BrokerError) :
      Ends i c cluster name request s (.error e) t := by
    obtain ⟨owner, eligible⟩ := exists_eligible name request.objectsOwner
    refine ⟨owner, ⟨0, c.target .root c.database⟩, ⟨0, 0, c.target .management name⟩, eligible.owns, fun _ => ⟨rfl, rfl⟩, ?_⟩
    exact .unread same e
  refine wp_passed (Command.check_of_isName named) (wp_passed (Command.check_of_isName named') ?_)
  refine wp_seq wp_loadRecord (fun c? t loaded => ?_) fun e t failed => unread failed.1 e
  obtain ⟨same, loads⟩ := loaded
  obtain rfl : c? = some c := loads_eq loads stored
  dsimp only
  rw [active]
  refine wp_seq wp_loadRecord (fun d? u loaded => ?_) fun e u failed => unread (same.trans failed.1) e
  obtain ⟨same', loads⟩ := loaded
  obtain rfl : d? = none := by
    rw [same.values] at loads
    exact loads_eq loads unregistered
  replace same := same.trans same'
  have chooses : Program.Yields (Eligible name request.objectsOwner) (chooseOwner name request.objectsOwner) :=
    yields_chooseOwner
  have choosing := Program.wp_yields (wp_quiet (i := i) (s := u) (only_chooseOwner (P := (·.quiet)) rfl)) chooses
  refine wp_seq_lift choosing fun owner v chosen => ?_
  obtain ⟨same', eligible⟩ := chosen
  replace same := same.trans same'
  have nothing : Done [] s v := .of_untouched same
  cases provision : request.provision with
  | false =>
    have planned (root : Connection) (tr : Transaction) : plan c name owner request root tr = [] := by
      unfold plan
      rw [provision]
      rfl
    have placed : Placed cluster c name s ⟨0, c.target .root c.database⟩ ⟨0, 0, c.target .management name⟩ :=
      fun _ => ⟨rfl, rfl⟩
    exact wp_saveDatabase_ends eligible.owns placed (planned .. ▸ nothing)
  | true =>
    have stored' : Loads ClusterRecord.decode v.values (StoreKeys.cluster cluster) (some c) := by rwa [Loads, same.values]
    have rested (rests : Resting cluster s) : Resting cluster v := (Surroundings.Calm.untouched ⟨rfl, rests⟩ same).resting
    refine wp_seq (wp_provisionDatabase_plan provision stored') (fun _ w made => ?_) fun e w failed => ?_
    · obtain ⟨root, tr, placed, done⟩ := made
      exact wp_saveDatabase_ends eligible.owns (fun rests => placed (rested rests)) (nothing.trans done)
    · obtain ⟨root, tr, deeds, placed, halted, done⟩ := failed
      exact ⟨owner, root, tr, eligible.owns, fun rests => placed (rested rests), .halted halted (nothing.trans done) e⟩

/-- Where nothing fails, a database is registered. -/
theorem wp_smooth_registerDatabase (named : Names.isName cluster) (named' : Names.isName name)
    (stored : Loads ClusterRecord.decode s.values (StoreKeys.cluster cluster) (some c)) (active : c.disabled = false)
    (unregistered : s.values.get? (StoreKeys.database cluster name) = none) :
    Op.wp (smooth i) (fun _ _ => True) (fun _ _ => False) (registerDatabase cluster name request) s := by
  refine wp_passed (Command.check_of_isName named) (wp_passed (Command.check_of_isName named') ?_)
  refine wp_load_reachable reachable_smooth stored fun t same => ?_
  dsimp only
  rw [active]
  have unregistered' : Loads DatabaseRecord.decode t.values (StoreKeys.database cluster name) none := by
    rw [same.values]
    exact unregistered
  refine wp_load_reachable reachable_smooth unregistered' fun u same' => ?_
  have held : Holding s.values u := (same.trans same').values
  have choosing : Works (smooth i) (Holding s.values) (fun _ => False)
      (liftM (chooseOwner name request.objectsOwner)) := works_lift labour_smooth (only_chooseOwner rfl)
  refine wp_seq (choosing u held) (fun owner v held => ?_) fun _ _ failed => failed.2
  have saving (w : Surroundings) : Op.wp (smooth i) (fun _ _ => True) (fun _ _ => False)
      (do
        saveDatabase cluster name (databaseRecord cluster name owner)
        return ({ value := databaseRecord cluster name owner } : Outcome DatabaseRecord)) w := by
    refine (wp_bind_ofStore ..).2 (reachable_smooth.call fun r _ reply => ?_)
    cases r with
    | error e => cases reply.2
    | ok _ => trivial
  have getting (key : ConnectionKey) (own : key.cluster = cluster) :
      Works (smooth i) (Holding s.values) (fun _ => False) (Connections.get key) := by
    subst own
    intro w held
    have stored' : Loads ClusterRecord.decode w.values (StoreKeys.cluster key.cluster) (some c) := by rwa [Loads, held]
    exact wp_mono (Connections.wp_get_reachable reachable_smooth stored') (fun _ _ got => got.values.trans held)
      fun _ _ => False.elim
  cases request.provision with
  | false => exact saving v
  | true =>
    refine wp_seq (works_provisionDatabase labour_smooth.toil getting v held) (fun _ w _ => saving w) ?_
    exact fun _ _ failed => failed.2

/-- Without provisioning a database, nothing is called but the store, and a random value is drawn. -/
theorem calls_registerDatabase_unprovisioned (unprovisioned : request.provision = false) :
    Op.Only (·.files) (registerDatabase cluster name request) := by
  refine only_bind (only_ofRefusal _) fun _ => only_bind (only_ofRefusal _) fun _ => ?_
  refine only_bind (calls_loadRecord rfl) fun c? => ?_
  cases c? with
  | none => exact only_refuse _
  | some c =>
    refine only_unless (only_bind (calls_loadRecord rfl) fun d? => ?_)
    cases d? with
    | some d => exact only_refused
    | none =>
      refine only_bind (only_lift (only_chooseOwner rfl)) fun owner => ?_
      rw [unprovisioned]
      exact only_bind (only_ofStore (Program.only_call rfl)) fun _ => only_pure _

/-- What is said of a registration. -/
structure Registration (i : Nat) (c : ClusterRecord) (cluster name : String) (request : DatabaseRequest) (s : Surroundings)
    (reply : Except BrokerError (Outcome DatabaseRecord)) (t : Surroundings) (owner : String) (root : Connection)
    (tr : Transaction) : Prop where
  owns : Owns request name owner
  placed : Placed cluster c name s root tr
  ending : Ending i (plan c name owner request root tr) (databaseRecord cluster name owner) s reply t
  stored_iff : t.values.get? (StoreKeys.database cluster name) ≠ none ↔
    ∃ u, Done (plan c name owner request root tr) s u ∧
      t = u.after i (.put (StoreKeys.database cluster name) (databaseRecord cluster name owner).encode) (.ok ())
  succeeds_iff : reply = .ok { value := databaseRecord cluster name owner } ↔
    t.values.get? (StoreKeys.database cluster name) ≠ none
  failing : ∀ e, reply = .error e → t.values = s.values ∧ Faulty s t
  unused : request.provision = false → s.Made (·.files) t

/-- What was stored is there, and nothing of it if the registration failed. -/
theorem Ending.values {plan : List Deed} {record : DatabaseRecord} {e : BrokerError}
    (ending : Ending i plan record s (.error e) t) : t.values = s.values := by
  cases ending with
  | unread same => exact same.values
  | halted halted done => exact done.values
  | unstored done => exact done.values

/-- However the calls of a registration are answered, it does what is planned, in this order and as far as the first step that
    fails, which is the last to be tried. The record is stored just if all of the plan was done and then the store took it, and
    just then the registration succeeds. The owner that it names is the one of the statements. -/
theorem database_registration {reply : Except BrokerError (Outcome DatabaseRecord)} (named : Names.isName cluster)
    (named' : Names.isName name)
    (stored : Loads ClusterRecord.decode s.values (StoreKeys.cluster cluster) (some c)) (active : c.disabled = false)
    (unregistered : s.values.get? (StoreKeys.database cluster name) = none)
    (run : Surroundings.Runs i (registerDatabase cluster name request).run s reply t) :
    ∃ owner root tr, Registration i c cluster name request s reply t owner root tr := by
  obtain ⟨owner, root, tr, owns, placed, ending⟩ : Ends i c cluster name request s reply t := by
    have ended := Program.wp_demonic_iff.1 (wp_registerDatabase_ending named named' stored active unregistered) reply t run
    cases reply <;> exact ended
  have left {u : Surroundings} : (u.after i (.put (StoreKeys.database cluster name)
      (databaseRecord cluster name owner).encode) (.ok ())).values.get? (StoreKeys.database cluster name) ≠ none := by
    show Table.get? (u.values.insert _ _) _ ≠ none
    rw [Table.get?_insert_self]
    nofun
  have failing (e : BrokerError) (failed : reply = .error e) : t.values = s.values ∧ Faulty s t := by
    subst failed
    refine ⟨ending.values, ?_⟩
    rcases Surroundings.smooth_or_faulty run with smooth | faulty
    · exact (Program.wp_demonic_iff.1 (wp_smooth_registerDatabase named named' stored active unregistered) _ t smooth).elim
    · exact faulty
  have absent (e : BrokerError) (failed : reply = .error e) : t.values.get? (StoreKeys.database cluster name) = none := by
    rw [(failing e failed).1, unregistered]
  refine ⟨owner, root, tr, owns, placed, ending, ?_, ?_, failing, fun unprovisioned => ?_⟩
  · refine ⟨fun there => ?_, fun ⟨u, _, last⟩ => last ▸ left⟩
    cases ending with
    | stored done => exact ⟨_, done, rfl⟩
    | unread | halted | unstored => exact absurd (absent _ rfl) there
  · refine ⟨fun succeeded => ?_, fun there => ?_⟩
    · cases ending with
      | stored done => exact left
      | unread | halted | unstored => cases succeeded
    · cases ending with
      | stored done => rfl
      | unread | halted | unstored => exact absurd (absent _ rfl) there
  · have made := Program.wp_demonic_iff.1
      (Surroundings.wp_made (i := i) (calls_registerDatabase_unprovisioned unprovisioned) (.refl _ s)) reply t run
    cases reply <;> exact made

end

/-- A database is registered by all of the plan, over connections that lead to its cluster. -/
theorem planned_registration_succeeds : ∃ s c t owner root tr,
    Surroundings.Runs 0 (registerDatabase "main" "app" { objectsOwner := "owner" }).run s
      (.ok { value := databaseRecord "main" "app" owner }) t ∧
    Registration 0 c "main" "app" { objectsOwner := "owner" } s (.ok { value := databaseRecord "main" "app" owner }) t owner
      root tr ∧
    root.target = c.target .root c.database ∧ tr.connection.target = c.target .management "app" ∧
    t.deeds = (plan c "app" owner { objectsOwner := "owner" } root tr).reverse ++ s.deeds := by
  have main : Names.isName "main" := by decide +kernel
  have app : Names.isName "app" := by decide +kernel
  obtain ⟨s, c, session, stored, active, free⟩ := Session.exists_cluster
  obtain ⟨reply, t, run, done⟩ := Program.wp_angelic_iff.1
    (Command.wp_lucky_registerDatabase (i := 0) { objectsOwner := "owner" } main app stored active (free "app"))
  obtain ⟨owner, root, tr, registration⟩ := database_registration main app stored active (free "app") run
  have there : t.values.get? (StoreKeys.database "main" "app") ≠ none := by
    cases reply with
    | error e => exact done.elim
    | ok outcome =>
      obtain ⟨d, ⟨text, found, -⟩, -⟩ := done
      exact fun none => nomatch found.symm.trans none
  obtain rfl := registration.succeeds_iff.2 there
  obtain ⟨u, done, last⟩ := registration.stored_iff.1 there
  obtain ⟨onRoot, onManagement⟩ := registration.placed (session.resting main)
  refine ⟨s, c, t, owner, root, tr, run, registration, onRoot, onManagement, ?_⟩
  rw [last]
  exact Surroundings.deeds_after.trans done.deeds

end Fleet

end LeaseBroker
