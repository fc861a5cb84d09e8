import LeaseBroker.Proofs.RestingConnections
import LeaseBroker.Proofs.RoleStatements

/-!
Who is a member of which role on a server. What counts is what took effect
there: statements that were run by themselves, and those of transactions that
were committed. To provision a database makes the manager of its cluster a
member of the owner of its objects, and to issue a credential by the default
statements makes it a member of the new login. A new registration makes nobody
a member of anything.
-/
namespace LeaseBroker

open Op
open Surroundings (alone Calm Resting)

/-- A statement was run in a transaction. -/
def RanIn (t : Transaction) (sql : String) (history : List Event) : Prop := ∃ i, ⟨i, .run t sql, .ok ()⟩ ∈ history

/-- A statement took effect over a connection: it was run by itself, or in a transaction that was committed after it. -/
inductive Effective (c : Connection) (sql : String) : List Event → Prop
  | executed {i : Nat} {earlier : List Event} : Effective c sql (⟨i, .execute c sql, .ok ()⟩ :: earlier)
  | committed {i : Nat} {t : Transaction} {earlier : List Event} (own : t.connection = c) (ran : RanIn t sql earlier) :
      Effective c sql (⟨i, .commit t, .ok ()⟩ :: earlier)
  | before {e : Event} {earlier : List Event} (h : Effective c sql earlier) : Effective c sql (e :: earlier)

/-- Who acts for the broker on a server. -/
structure Manager where
  host : String
  port : UInt16
  role : String

/-- The manager of a cluster by its record. -/
def ClusterRecord.manager (c : ClusterRecord) : Manager := ⟨c.host, c.port, c.managementRole⟩

namespace Manager

/-- A connection leads to the server of the manager. -/
def Serves (m : Manager) (c : Connection) : Prop := c.target.host = m.host ∧ c.target.port = m.port

/-- What took effect on its server made the manager a member of a role. -/
def MemberOf (m : Manager) (role : String) (history : List Event) : Prop :=
  ∃ c sql, Effective c sql history ∧ m.Serves c ∧ Enrols sql role m.role

end Manager

/-! ## What lasts -/

theorem RanIn.of_suffix {t : Transaction} {sql : String} {earlier later : List Event} (grown : earlier <:+ later)
    (h : RanIn t sql earlier) : RanIn t sql later := by
  obtain ⟨i, member⟩ := h
  exact ⟨i, grown.subset member⟩

theorem Effective.of_suffix {c : Connection} {sql : String} {earlier later : List Event} (grown : earlier <:+ later)
    (h : Effective c sql earlier) : Effective c sql later := by
  obtain ⟨new, rfl⟩ := grown
  induction new with
  | nil => exact h
  | cons e new ih => exact .before ih

/-- What took effect stays in effect. -/
theorem Manager.MemberOf.of_suffix {m : Manager} {role : String} {earlier later : List Event} (grown : earlier <:+ later)
    (h : m.MemberOf role earlier) : m.MemberOf role later := by
  obtain ⟨c, sql, effective, serves, enrols⟩ := h
  exact ⟨c, sql, effective.of_suffix grown, serves, enrols⟩

variable {values : Table String} {cluster : String} {i : Nat} {s : Surroundings} {r : ClusterRecord}

/-! ## Transactions -/

namespace Connections

/-- A transaction that is begun for a cluster runs on the server of its manager. -/
theorem wp_startManagement {name : String} (calm : Calm values cluster s)
    (stored : Loads ClusterRecord.decode values (StoreKeys.cluster cluster) (some r)) :
    Op.wp (alone i) (fun t u => Calm values cluster u ∧ r.manager.Serves t.connection) (fun _ => Calm values cluster)
      (startManagement cluster name) s := by
  refine wp_mono (wp_calm_startManagement calm stored) (fun t u begun => ?_) fun _ _ failed => failed
  exact ⟨begun.1, congrArg Target.host begun.2, congrArg Target.port begun.2⟩

end Connections

/-- All statements of a transaction that did not fail were run in it. -/
theorem Fleet.wp_runEach {t : Transaction} {bindings : Bindings} (templates : List String) (calm : Calm values cluster s) :
    Program.wp (alone i)
      (fun ran u => Calm values cluster u ∧
        (ran = .ok () → ∀ template ∈ templates, RanIn t (Template.render template bindings) u.history))
      (runEach t bindings templates) s := by
  induction templates generalizing s with
  | nil => exact ⟨calm, nofun⟩
  | cons template rest ih =>
    refine (Program.wp_bind ..).2 (Surroundings.alone_iff.2 fun ran _ => ?_)
    have calm' : Calm values cluster (s.after i (.run t (Template.render template bindings)) ran) := calm.after rfl rfl
    cases ran with
    | error e => exact ⟨calm', nofun⟩
    | ok done =>
      show Program.wp (alone i) _ (runEach t bindings rest) _
      refine Program.wp_demonic_iff.2 fun ended u run => ?_
      obtain ⟨calm'', all⟩ := Program.wp_demonic_iff.1 (ih calm') ended u run
      refine ⟨calm'', fun fine => List.forall_mem_cons.2 ⟨?_, all fine⟩⟩
      exact RanIn.of_suffix (Surroundings.history_grows run) ⟨i, List.mem_cons_self⟩

/-! ## Databases that are provisioned -/

namespace Fleet

variable {name : String}

/-- A database is provisioned by the manager of its cluster, who becomes a member of the owner. -/
theorem wp_provisionDatabase {owner : String} {createDatabase : Bool} (calm : Calm values cluster s)
    (stored : Loads ClusterRecord.decode values (StoreKeys.cluster cluster) (some r)) :
    Op.wp (alone i) (fun _ u => r.manager.MemberOf owner u.history) (fun _ _ => True)
      (provisionDatabase r cluster name owner createDatabase) s := by
  have transacting (u : Surroundings) (calm : Calm values cluster u) :
      Op.wp (alone i) (fun _ u => r.manager.MemberOf owner u.history) (fun _ _ => True)
        (provisionDatabase r cluster name owner false) u := by
    refine wp_seq (Connections.wp_startManagement calm stored) (fun t v begun => ?_) fun _ _ _ => trivial
    obtain ⟨calm, serves⟩ := begun
    refine wp_seq_lift (wp_runEach _ calm) fun ran w ended => ?_
    cases ran with
    | error e =>
      exact wp_seq_lift (Surroundings.wp_alone_any _ w) fun _ _ _ => trivial
    | ok done =>
      have ran := ended.2 rfl Statements.createObjectsOwner List.mem_cons_self
      rw [render_createObjectsOwner] at ran
      refine (wp_ofSql _).2 (Surroundings.alone_iff.2 fun committed _ => ?_)
      cases committed with
      | error e => trivial
      | ok done => exact ⟨t.connection, _, .committed rfl ran, serves, _, rfl, rfl, List.mem_cons_self⟩
  cases createDatabase with
  | false => exact transacting s calm
  | true =>
    refine wp_seq (Connections.wp_calm_getWithin _ Connections.attempts calm) (fun root u got => ?_)
      fun _ _ _ => trivial
    refine wp_seq (works_inContext labour_calm.toil (works_ofSql (labour_calm.toil.execute root _)) u got.1)
      (fun _ v calm => ?_) fun _ _ _ => trivial
    exact transacting v calm

/-- A database that is registered and provisioned has an owner of which the manager of its cluster is a member. -/
theorem wp_registerDatabase {request : DatabaseRequest} (provision : request.provision) (resting : Resting cluster s) :
    Op.wp (alone i)
      (fun outcome t => ∃ r, Loads ClusterRecord.decode s.values (StoreKeys.cluster cluster) (some r) ∧
        t.values.get? (StoreKeys.database cluster name) = some outcome.value.encode ∧
        r.manager.MemberOf outcome.value.objectsOwner t.history)
      (fun _ _ => True) (registerDatabase cluster name request) s := by
  refine wp_checked (fun _ _ => trivial) fun _ _ => wp_checked (fun _ _ => trivial) fun _ _ => ?_
  refine wp_found wp_loadRecord (fun _ _ => trivial) (fun r t loaded => ?_) fun _ _ _ => trivial
  obtain ⟨same, loads⟩ := loaded
  refine wp_unless trivial fun _ => ?_
  refine wp_found wp_loadRecord (fun u missing => ?_) (fun _ _ _ => trivial) fun _ _ _ => trivial
  have same' := same.trans missing.1
  refine wp_seq_lift (wp_quiet (only_chooseOwner (P := (·.quiet)) rfl)) fun owner v drawn => ?_
  have calm : Calm s.values cluster v := Calm.untouched ⟨rfl, resting⟩ (same'.trans drawn)
  rw [provision]
  refine wp_seq (wp_provisionDatabase calm loads) (fun _ w member => ?_) fun _ _ _ => trivial
  refine (wp_bind_ofStore ..).2 (Surroundings.alone_iff.2 fun stored _ => ?_)
  cases stored with
  | error e => trivial
  | ok done => exact ⟨r, loads, Table.get?_insert_self .., member.of_suffix (List.suffix_cons ..)⟩

end Fleet

/-! ## Credentials that are issued -/

/-- Who issues a credential by the default statements becomes a member of its login. -/
theorem Credentials.wp_issueCredential {settings : Settings} {name role displayName : String} {roleRecord : RoleRecord}
    (resting : ∀ c, Loads ClusterRecord.decode s.values (StoreKeys.cluster cluster) (some c) → Resting cluster s)
    (pattern : Loads RoleRecord.decode s.values (StoreKeys.role role) (some roleRecord))
    (byDefault : roleRecord.creationStatements = Statements.creation) :
    Op.wp (alone i)
      (fun credential t => ∃ r, Loads ClusterRecord.decode s.values (StoreKeys.cluster cluster) (some r) ∧
        r.manager.MemberOf credential.username t.history)
      (fun _ _ => True) (issueCredential settings cluster name role displayName) s := by
  refine wp_found wp_loadRecord (fun _ _ => trivial) (fun r t loaded => ?_) fun _ _ _ => trivial
  obtain ⟨same, loads⟩ := loaded
  refine wp_unless trivial fun _ => ?_
  refine wp_found wp_loadRecord (fun _ _ => trivial) (fun d u loaded => ?_) fun _ _ _ => trivial
  replace same := same.trans loaded.1
  refine wp_unless trivial fun _ => ?_
  refine wp_found wp_loadRecord (fun _ _ => trivial) (fun ρ v loaded => ?_) fun _ _ _ => trivial
  obtain ⟨same', found⟩ := loaded
  rw [same.values] at found
  replace same := same.trans same'
  obtain rfl : ρ = roleRecord := loads_unique found pattern
  have drawn {c : Call} {a : c.Answer} (quiet : c.quiet) {t : Surroundings}
      (calm : Calm s.values cluster t) : Calm s.values cluster (t.after i c a) :=
    calm.after (c.not_keeps_of_quiet quiet) (c.not_writes_of_quiet quiet)
  have calm : Calm s.values cluster v := Calm.untouched ⟨rfl, resting r loads⟩ same
  refine (wp_bind_lift ..).2 (Surroundings.alone_iff.2 fun (id : Uuid) _ => ?_)
  refine (wp_bind_lift ..).2 (Surroundings.alone_iff.2 fun (password : String) _ => ?_)
  refine (wp_bind_lift ..).2 (Surroundings.alone_iff.2 fun (now : Instant) _ => ?_)
  refine wp_seq (Connections.wp_startManagement (drawn rfl (drawn rfl (drawn rfl calm))) loads) (fun t w begun => ?_)
    fun _ _ _ => trivial
  obtain ⟨calm, serves⟩ := begun
  refine wp_seq_lift (Fleet.wp_runEach _ calm) fun ran x ended => ?_
  cases ran with
  | error e =>
    exact wp_seq_lift (Surroundings.wp_alone_any _ x) fun _ _ _ => trivial
  | ok done =>
    obtain ⟨rest, creation⟩ := trimmed_creation
    have ran := ended.2 rfl loginCreation (by rw [byDefault, creation]; exact List.mem_cons_self)
    rw [render_loginCreation] at ran
    refine (wp_bind_ofSql ..).2 (Surroundings.alone_iff.2 fun committed _ => ?_)
    cases committed with
    | error e => trivial
    | ok done =>
      refine (wp_bind_lift ..).2 (Surroundings.alone_iff.2 fun tallied _ => ?_)
      exact ⟨r, loads, t.connection, _, .before (.committed rfl ran), serves, _, rfl, rfl, List.mem_cons_self⟩

/-! ## Clusters that are registered -/

/-- Whether nobody becomes a member of anything by the call. -/
def Call.Mute : Call → Prop
  | .execute _ sql => ∀ role member, ¬Enrols sql role member
  | .commit _ => False
  | _ => True

theorem Call.mute_of_quiet (c : Call) (h : c.quiet) : c.Mute := by cases c <;> trivial

theorem Call.mute_of_tends (c : Call) (h : c.tends) : c.Mute := by cases c <;> trivial

/-- A mute call makes no manager a member of anything. -/
theorem Manager.MemberOf.of_mute {m : Manager} {role : String} {e : Event} {earlier : List Event} (mute : e.call.Mute)
    (h : m.MemberOf role (e :: earlier)) : m.MemberOf role earlier := by
  obtain ⟨c, sql, effective, serves, enrols⟩ := h
  cases effective with
  | executed => exact absurd enrols (mute role m.role)
  | committed => exact mute.elim
  | before effective => exact ⟨c, sql, effective, serves, enrols⟩

theorem wp_mute {α : Type} {p : Op α} (h : Op.Only Call.Mute p) :
    Op.wp (alone i) (fun _ t => ∀ m role, Manager.MemberOf m role t.history → m.MemberOf role s.history)
      (fun _ t => ∀ m role, Manager.MemberOf m role t.history → m.MemberOf role s.history) p s := by
  refine Op.wp_of_only (D := alone i) (I := fun t => ∀ m role, Manager.MemberOf m role t.history → m.MemberOf role s.history)
    (fun c K t mute before next => ?_) h fun _ _ member => member
  exact Surroundings.alone_iff.2 fun r _ => next r _ fun m role member => before m role (member.of_mute mute)

namespace Fleet

theorem mute_provisionCluster {c : Connection} {user : String} : Op.Only Call.Mute (provisionCluster c user) := by
  have drawing {c : Call} (mute : c.Mute) : Op.Only Call.Mute (liftM (Program.call c .done)) :=
    only_lift (Program.only_call mute)
  have role : Op.Only Call.Mute (createManagementRole c) := by
    refine only_bind (drawing trivial) fun id => only_bind (drawing trivial) fun password => ?_
    exact only_bind (only_ofSql (Program.only_call (not_enrols_createManagementRole _))) fun _ => only_pure _
  refine only_bind (only_inContext role) fun _ => only_bind (only_inContext ?_) fun _ => only_pure _
  refine only_bind (drawing trivial) fun password => ?_
  exact only_bind (only_ofSql (Program.only_call (not_enrols_updatePassword user password))) fun _ => only_pure _

/-- A new registration makes nobody a member of anything. -/
theorem mute_registerCluster {name : String} {request : ClusterRequest} :
    Op.Only Call.Mute (registerCluster name request) := by
  refine only_bind (only_ofRefusal _) fun _ => only_bind (only_mono Call.mute_of_quiet only_loadRecord) fun c? => ?_
  split
  all_goals
    try refine only_unless ?_
    refine only_bind (only_ofRefusal _) fun record => ?_
    refine only_bind (only_mono Call.mute_of_tends Connections.tends_openUncached) fun c => ?_
    refine only_bind (only_andAlways mute_provisionCluster (Program.only_mono Call.mute_of_tends Connections.tends_closeQuietly))
      fun logins => ?_
    refine only_bind (only_ofStore (Program.only_call trivial)) fun _ => ?_
    refine only_bind (only_lift (Program.only_mono Call.mute_of_tends Connections.tends_invalidate)) fun closed => ?_
    cases closed <;> exact only_pure _

end Fleet

end LeaseBroker
