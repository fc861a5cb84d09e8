import LeaseBroker.Proofs.Memberships
import LeaseBroker.Proofs.Sessions

/-!
What the management role of a cluster may rely on. It acts for the owners of
databases and for the logins that it has issued, so it must be a member of
them. It is, for what was provisioned and issued since the cluster was last
registered. But to register a cluster anew gives it another management role and
makes that a member of nothing, and no statement makes up for it: what was
provisioned or issued before is out of its reach.
-/
namespace LeaseBroker

open Op
open Surroundings (alone)

namespace Entry

/-- A database was registered. -/
def Enlists (cluster name : String) (e : Entry) : Prop :=
  e.Succeeds ∧ ∃ request, e.command = .registerDatabase cluster name request

/-- A database was registered, and the owner of its objects was made. -/
def Provisions (cluster name : String) (e : Entry) : Prop :=
  e.Succeeds ∧ ∃ request, request.provision ∧ e.command = .registerDatabase cluster name request

/-- A cluster was registered, perhaps anew, or purged. -/
def Renews (cluster : String) (e : Entry) : Prop :=
  e.Succeeds ∧ ((∃ request, e.command = .registerCluster cluster request) ∨ e.command = .purgeCluster cluster)

/-- A credential was issued by the default statements. -/
def Issues (cluster username : String) (e : Entry) : Prop :=
  ∃ settings name role displayName credential roleRecord,
    e.command = .issueCredential settings cluster name role displayName ∧ e.reply = .ok (some credential) ∧
      credential.username = username ∧
      Loads RoleRecord.decode e.before.values (StoreKeys.role role) (some roleRecord) ∧
      roleRecord.creationStatements = Statements.creation

end Entry

/-- A cluster is registered and has this manager. -/
def ManagedBy (cluster : String) (m : Manager) (s : Surroundings) : Prop :=
  ∃ c, Loads ClusterRecord.decode s.values (StoreKeys.cluster cluster) (some c) ∧ c.manager = m

/-- If a database is registered, then with this owner. -/
def OwnedBy (cluster name owner : String) (s : Surroundings) : Prop :=
  ∀ text, s.values.get? (StoreKeys.database cluster name) = some text →
    ∃ d : DatabaseRecord, text = d.encode ∧ d.objectsOwner = owner

variable {i : Nat} {s t : Surroundings} {command : Command} {reply : Except BrokerError (Option Credential)}
  {log : List Entry} {cluster name owner : String} {m : Manager}

/-- A cluster keeps its manager until it is registered anew or purged. -/
theorem ManagedBy.step (managed : ManagedBy cluster m s) (named : Names.isName cluster)
    (run : Surroundings.Runs i command.op.run s reply t) (stays : ¬Entry.Renews cluster ⟨s, command, reply⟩) :
    ManagedBy cluster m t := by
  obtain ⟨c, loads, rfl⟩ := managed
  have bare := Names.slash_not_mem named
  rcases command.alters run (StoreKeys.cluster cluster) with same | ⟨done, altered⟩
  · refine ⟨c, ?_, rfl⟩
    rw [Loads, same]
    exact loads
  · cases command with
    | registerCluster n request =>
      obtain rfl := StoreKeys.cluster_injective altered.1
      exact absurd ⟨done, .inl ⟨request, rfl⟩⟩ stays
    | deleteCluster n =>
      obtain ⟨-, c', loads', left⟩ := altered
      obtain rfl := loads_unique loads loads'
      exact ⟨{ c with disabled := true }, ⟨_, left, ClusterRecord.decode_encode _⟩, rfl⟩
    | purgeCluster n =>
      obtain rfl := StoreKeys.cluster_injective altered.1
      exact absurd ⟨done, .inr rfl⟩ stays
    | cloneCluster source request =>
      obtain ⟨text, found, -⟩ := loads
      obtain ⟨own | ⟨n, own, -⟩, -, free⟩ := altered
      · rw [own, free] at found
        cases found
      · exact absurd own (StoreKeys.cluster_ne_database bare _ n)
    | registerDatabase c' n request => exact absurd altered.1 (StoreKeys.cluster_ne_database bare c' n)
    | deleteDatabase c' n => exact absurd altered.1 (StoreKeys.cluster_ne_database bare c' n)
    | purgeDatabase c' n => exact absurd altered.1 (StoreKeys.cluster_ne_database bare c' n)
    | writeRole limits n request => exact absurd altered.symm (StoreKeys.role_ne_cluster n cluster)
    | deleteRole n => exact absurd altered.symm (StoreKeys.role_ne_cluster n cluster)
    | writeTags c' database tags =>
      obtain ⟨id, own⟩ := altered
      exact absurd own.symm (StoreKeys.tagSet_ne_cluster id cluster)
    | eraseTags id => exact absurd altered.symm (StoreKeys.tagSet_ne_cluster id cluster)
    | _ => exact altered.elim

theorem ManagedBy.named (managed : ManagedBy cluster m s) (session : Session log s) : Names.isName cluster := by
  obtain ⟨c, loads, -⟩ := managed
  exact session.named loads

/-- A database of a registered cluster keeps its owner until it is registered again. -/
theorem OwnedBy.step (owned : OwnedBy cluster name owner s) (session : Session log s) (managed : ManagedBy cluster m s)
    (named : Names.isName cluster) (named' : Names.isName name) (run : Surroundings.Runs i command.op.run s reply t)
    (stays : ¬Entry.Enlists cluster name ⟨s, command, reply⟩) : OwnedBy cluster name owner t := by
  have bare := Names.slash_not_mem named
  have unlike {n : String} (valid : Names.isName n) : StoreKeys.database cluster name ≠ StoreKeys.cluster n :=
    (StoreKeys.cluster_ne_database (Names.slash_not_mem valid) cluster name).symm
  rcases command.alters run (StoreKeys.database cluster name) with same | ⟨done, altered⟩
  · intro text found
    rw [same] at found
    exact owned text found
  · cases command with
    | registerCluster n request => exact absurd altered.1 (unlike altered.2)
    | deleteCluster n =>
      obtain ⟨own, c, loads, -⟩ := altered
      exact absurd own (unlike (session.named (own ▸ loads)))
    | purgeCluster n =>
      obtain ⟨own, c, loads⟩ := altered
      exact absurd own (unlike (session.named (own ▸ loads)))
    | cloneCluster source request =>
      obtain ⟨own | ⟨n, own, -⟩, valid, free⟩ := altered
      · exact absurd own (unlike valid)
      · obtain ⟨c, ⟨text, found, -⟩, -⟩ := managed
        rw [← (StoreKeys.database_injective bare (Names.slash_not_mem named') own.symm).1, free] at found
        cases found
    | registerDatabase c n request =>
      obtain ⟨rfl, rfl⟩ := StoreKeys.database_injective bare (Names.slash_not_mem named') altered.1.symm
      exact absurd ⟨done, request, rfl⟩ stays
    | deleteDatabase c n =>
      obtain ⟨-, d, ⟨text, found, decoded⟩, left⟩ := altered
      obtain ⟨d', rfl, rfl⟩ := owned text found
      rw [DatabaseRecord.decode_encode] at decoded
      cases decoded
      intro text' found'
      cases left.symm.trans found'
      exact ⟨_, rfl, rfl⟩
    | purgeDatabase c n =>
      intro text found
      cases altered.2.symm.trans found
    | writeRole limits n request => exact absurd altered.symm (StoreKeys.role_ne_database n cluster name)
    | deleteRole n => exact absurd altered.symm (StoreKeys.role_ne_database n cluster name)
    | writeTags c database tags =>
      obtain ⟨id, own⟩ := altered
      exact absurd own.symm (StoreKeys.tagSet_ne_database id cluster name)
    | eraseTags id => exact absurd altered.symm (StoreKeys.tagSet_ne_database id cluster name)
    | _ => exact altered.elim

/-! ## What a manager may rely on -/

/-- The owner of a database has the manager of its cluster as a member. -/
structure Governed (cluster name : String) (s : Surroundings) (m : Manager) (owner : String) : Prop where
  named : Names.isName name
  managed : ManagedBy cluster m s
  owned : OwnedBy cluster name owner s
  member : m.MemberOf owner s.history

/-- A database is registered, and its owner has the manager that its cluster had before among its members. -/
def Provisioned (cluster name : String) (before s : Surroundings) : Prop :=
  ∃ (c : ClusterRecord) (d : DatabaseRecord),
    Loads ClusterRecord.decode before.values (StoreKeys.cluster cluster) (some c) ∧
      s.values.get? (StoreKeys.database cluster name) = some d.encode ∧ c.manager.MemberOf d.objectsOwner s.history

theorem governed_of_provisions (session : Session log s) (run : Surroundings.Runs i command.op.run s reply t)
    (provisions : Entry.Provisions cluster name ⟨s, command, reply⟩) : ∃ m owner, Governed cluster name t m owner := by
  obtain ⟨⟨a, rfl⟩, request, provision, rfl⟩ := provisions
  obtain ⟨results, decided, -⟩ :=
    Command.of_wp_op run (wp_unkept.2 ((Fleet.registerDatabaseChange cluster name request).wp_decided rfl))
  obtain ⟨named, named', -⟩ := Fleet.decideEnlisting_eq_write decided
  have provisioned : Op.wp (alone i) (fun _ => Provisioned cluster name s) (fun _ _ => True)
      (Command.registerDatabase cluster name request).op s :=
    wp_unkept.2 (wp_mono (Fleet.wp_registerDatabase provision (session.resting named))
      (fun outcome u ⟨c, h⟩ => ⟨c, outcome.value, h⟩) fun _ _ _ => trivial)
  obtain ⟨c, d, loads, left, member⟩ := Command.of_wp_op run provisioned
  refine ⟨c.manager, d.objectsOwner, named', ?_, ?_, member⟩
  · refine ManagedBy.step ⟨c, loads, rfl⟩ named run ?_
    rintro ⟨-, ⟨request', same⟩ | same⟩ <;> cases same
  · intro text found
    cases left.symm.trans found
    exact ⟨d, rfl, rfl⟩

theorem Governed.step (governed : Governed cluster name s m owner) (session : Session log s)
    (run : Surroundings.Runs i command.op.run s reply t) (renewed : ¬Entry.Renews cluster ⟨s, command, reply⟩)
    (enlisted : ¬Entry.Enlists cluster name ⟨s, command, reply⟩) : Governed cluster name t m owner := by
  obtain ⟨named', managed, owned, member⟩ := governed
  have named := managed.named session
  refine ⟨named', managed.step named run renewed, ?_, member.of_suffix (Surroundings.history_grows run)⟩
  exact owned.step session managed named named' run enlisted

theorem member_of_issues {username : String} (session : Session log s)
    (run : Surroundings.Runs i command.op.run s reply t) (issues : Entry.Issues cluster username ⟨s, command, reply⟩) :
    ∃ m, ManagedBy cluster m t ∧ m.MemberOf username t.history := by
  obtain ⟨settings, name, role, displayName, credential, roleRecord, rfl, rfl, rfl, pattern, byDefault⟩ := issues
  have issued : Op.wp (alone i)
      (fun a u => ∀ credential, a = some credential → ∃ c : ClusterRecord,
        Loads ClusterRecord.decode s.values (StoreKeys.cluster cluster) (some c) ∧
          c.manager.MemberOf credential.username u.history)
      (fun _ _ => True) (Command.issueCredential settings cluster name role displayName).op s := by
    refine wp_seq (Credentials.wp_issueCredential
      (fun c loads => session.resting (session.named loads)) pattern byDefault) (fun credential u h => ?_) fun _ _ _ => trivial
    rintro _ ⟨⟩
    exact h
  obtain ⟨c, loads, member⟩ := Program.wp_demonic_iff.1 issued _ _ run credential rfl
  refine ⟨c.manager, ManagedBy.step ⟨c, loads, rfl⟩ (session.named loads) run ?_, member⟩
  rintro ⟨-, ⟨request', same⟩ | same⟩ <;> cases same

/-! ## The management role of a cluster -/

namespace Session

variable {c : ClusterRecord}

/-- The current manager is a member of the owner of a database that was provisioned since the cluster was last
    registered. -/
theorem member_of_owner (session : Session log s)
    (stored : Loads ClusterRecord.decode s.values (StoreKeys.cluster cluster) (some c)) {d : DatabaseRecord}
    (stored' : Loads DatabaseRecord.decode s.values (StoreKeys.database cluster name) (some d))
    (since : Since (Entry.Provisions cluster name) (fun e => e.Renews cluster ∨ e.Enlists cluster name) log) :
    c.manager.MemberOf d.objectsOwner s.history := by
  obtain ⟨m, owner, governed⟩ : ∃ m owner, Governed cluster name s m owner := by
    refine session.of_since governed_of_provisions (fun session run stays governed => ?_) since
    obtain ⟨m, owner, governed⟩ := governed
    exact ⟨m, owner, governed.step session run (fun renewed => stays (.inl renewed)) fun enlisted => stays (.inr enlisted)⟩
  obtain ⟨c', loads, rfl⟩ := governed.managed
  obtain rfl := loads_unique stored loads
  obtain ⟨text, found, decoded⟩ := stored'
  obtain ⟨d', rfl, rfl⟩ := governed.owned text found
  rw [DatabaseRecord.decode_encode] at decoded
  cases decoded
  exact governed.member

/-- The current manager is a member of each login that it has issued by the default statements. -/
theorem member_of_login (session : Session log s)
    (stored : Loads ClusterRecord.decode s.values (StoreKeys.cluster cluster) (some c)) {username : String}
    (since : Since (Entry.Issues cluster username) (Entry.Renews cluster) log) :
    c.manager.MemberOf username s.history := by
  obtain ⟨m, managed, member⟩ : ∃ m, ManagedBy cluster m s ∧ m.MemberOf username s.history := by
    refine session.of_since member_of_issues (fun session run stays before => ?_) since
    obtain ⟨m, managed, member⟩ := before
    exact ⟨m, managed.step (managed.named session) run stays, member.of_suffix (Surroundings.history_grows run)⟩
  obtain ⟨c', loads, rfl⟩ := managed
  obtain rfl := loads_unique stored loads
  exact member

/-- To register a cluster makes nobody a member of anything. -/
theorem memberOf_registered {before : Surroundings} {request : ClusterRequest} {earlier : List Entry}
    (session : Session (⟨before, .registerCluster cluster request, reply⟩ :: earlier) s) (m : Manager) (role : String) :
    m.MemberOf role s.history ↔ m.MemberOf role before.history := by
  obtain _ | ⟨-, run⟩ := session
  have mute : Op.Only Call.Mute (Command.registerCluster cluster request).op :=
    only_bind Fleet.mute_registerCluster fun _ => only_pure _
  constructor
  · exact Program.wp_demonic_iff.1 (wp_either.1 (wp_mute mute)) _ _ run m role
  · exact Manager.MemberOf.of_suffix (Surroundings.history_grows run)

/-- What took effect on its server makes the current management role of a cluster a member of the owner of each database
    that was provisioned since the cluster was last registered, and of each login that was issued since by the
    default statements. A role that the cluster has just been given is a member of no more than it was before it was
    made, whatever was provisioned and issued. -/
theorem management_role_memberships (session : Session log s)
    (stored : Loads ClusterRecord.decode s.values (StoreKeys.cluster cluster) (some c)) :
    (∀ name d, Loads DatabaseRecord.decode s.values (StoreKeys.database cluster name) (some d) →
      Since (Entry.Provisions cluster name) (fun e => e.Renews cluster ∨ e.Enlists cluster name) log →
        c.manager.MemberOf d.objectsOwner s.history) ∧
    (∀ username, Since (Entry.Issues cluster username) (Entry.Renews cluster) log →
      c.manager.MemberOf username s.history) ∧
    ∀ before request reply earlier, log = ⟨before, .registerCluster cluster request, reply⟩ :: earlier →
      ∀ role, c.manager.MemberOf role s.history ↔ c.manager.MemberOf role before.history := by
  refine ⟨fun name d => session.member_of_owner stored, fun username => session.member_of_login stored, ?_⟩
  rintro before request reply earlier rfl role
  exact session.memberOf_registered c.manager role

/-- A cluster is registered, a database provisioned and a credential issued by the default statements, and all is as it
    should be; then the cluster is registered anew. -/
theorem management_role_memberships_until_renewed : ∃ log s t c c' d username,
    Session log s ∧ Loads ClusterRecord.decode s.values (StoreKeys.cluster "main") (some c) ∧
      Loads DatabaseRecord.decode s.values (StoreKeys.database "main" "app") (some d) ∧
      c.manager.MemberOf d.objectsOwner s.history ∧ c.manager.MemberOf username s.history ∧
      Session (⟨s, .registerCluster "main" exampleRequest, .ok none⟩ :: log) t ∧
      Loads ClusterRecord.decode t.values (StoreKeys.cluster "main") (some c') ∧
      ∀ role, c'.manager.MemberOf role t.history ↔ c'.manager.MemberOf role s.history := by
  obtain ⟨_, _, s₃, c, d, registered, stored₃, active, stored', active', pattern⟩ :=
    Session.exists_registered {} {} (by decide +kernel)
  have main : Names.isName "main" := registered.named stored₃
  obtain ⟨record, fine⟩ : ∃ record, exampleRequest.validate = .ok record := ⟨_, rfl⟩
  obtain ⟨s, credential, run₄, same⟩ :=
    Command.runs_issueCredential (i := 0) {} "app" stored₃ active stored' active' pattern
  have stored₄ : Loads ClusterRecord.decode s.values (StoreKeys.cluster "main") (some c) := by rwa [same]
  have stored'₄ : Loads DatabaseRecord.decode s.values (StoreKeys.database "main" "app") (some d) := by rwa [same]
  obtain ⟨t, c', run₅, stored₅, -, -⟩ :=
    Command.runs_registerCluster (i := 0) (s := s) main fine ⟨some c, stored₄, active⟩
  have session := registered.next run₄
  have renewed := session.next run₅
  obtain ⟨owners, logins, -⟩ := session.management_role_memberships stored₄
  obtain ⟨-, -, anew⟩ := renewed.management_role_memberships stored₅
  refine ⟨_, s, t, c, c', d, credential.username, session, stored₄, stored'₄, ?_, ?_, renewed, stored₅, ?_⟩
  · refine owners "app" d stored'₄ (.inr ⟨?_, .inl ⟨⟨none, rfl⟩, _, rfl, rfl⟩⟩)
    rintro (⟨-, ⟨request, same⟩ | same⟩ | ⟨-, request, same⟩) <;> cases same
  · refine logins credential.username (.inl ⟨{}, "app", "reader", "app", credential, _, rfl, rfl, rfl, pattern, rfl⟩)
  · exact anew _ _ _ _ rfl

end Session

end LeaseBroker
