import LeaseBroker.Proofs.ServerPasswords
import LeaseBroker.Proofs.Sessions

/-!
What registering and cloning a cluster make of the passwords on servers. Both
change passwords on the server first and write the record last, and nothing
undoes a change when a later step fails. So what a failure leaves behind is said
by the step that failed (`RotationFailed`, `WriteFailed`).
-/
namespace LeaseBroker

open Op
open Surroundings (alone lucky Untouched)
open PasswordStatement (loginOf bindings altered?)

/-- No login of the server got the password that a statement was to give it. -/
def Event.RotationFailed (place : Endpoint) (login : String) : Event → Prop
  | ⟨_, .execute c sql, .error _⟩ => c.target.endpoint = place ∧ ∃ password, altered? sql = some (login, password)
  | _ => False

/-- The value was not stored under the key. -/
def Event.WriteFailed (key : String) : Event → Prop
  | ⟨_, .put k _, .error _⟩ => k = key
  | _ => False

/-- A call that neither changes the store nor lets statements take effect on a server. -/
def Call.idle : Call → Bool
  | put .. | delete _ | execute .. | commit _ => false
  | _ => true

theorem Call.idle_of_quiet (c : Call) (h : c.quiet) : c.idle := by cases c <;> first | rfl | cases h

theorem Call.idle_of_tends (c : Call) (h : c.tends) : c.idle := by cases c <;> first | rfl | cases h

namespace Surroundings

variable {first : Accounts} {s t : Surroundings} {i : Nat}

/-- The accounts on all servers, if they were `first` before anything was said. -/
def accounts (first : Accounts) (s : Surroundings) : Accounts := first.after s.history

/-- Something happened between `s` and `t`. -/
def Met (P : Event → Prop) (s t : Surroundings) : Prop :=
  ∃ events, t.history = events ++ s.history ∧ ∃ e ∈ events, P e

theorem Met.later {P : Event → Prop} {u : Surroundings} (met : s.Met P t) (grown : t.history <:+ u.history) :
    s.Met P u := by
  obtain ⟨events, before, e, member, holds⟩ := met
  obtain ⟨more, after⟩ := grown
  refine ⟨more ++ events, ?_, e, List.mem_append_right _ member, holds⟩
  rw [← after, before, List.append_assoc]

theorem met_here {P : Event → Prop} {c : Call} {r : c.Answer} (grown : s.history <:+ t.history) (holds : P ⟨i, c, r⟩) :
    s.Met P (t.after i c r) := by
  obtain ⟨events, grown⟩ := grown
  exact ⟨⟨i, c, r⟩ :: events, congrArg (List.cons _) grown.symm, _, List.mem_cons_self, holds⟩

/-- On the way from `s`, with nothing stored meanwhile and the accounts `a` by now. -/
structure Stage (first : Accounts) (s : Surroundings) (a : Accounts) (t : Surroundings) : Prop where
  grown : s.history <:+ t.history
  values : t.values = s.values
  accounts : t.accounts first = a

namespace Stage

variable {a : Accounts}

theorem refl (first : Accounts) (s : Surroundings) : Stage first s (s.accounts first) s := ⟨List.suffix_refl _, rfl, rfl⟩

theorem after {c : Call} {r : c.Answer} (stage : Stage first s a t) (idle : c.idle) : Stage first s a (t.after i c r) := by
  obtain ⟨grown, values, rfl⟩ := stage
  refine ⟨grown.trans (List.suffix_cons ..), ?_, ?_⟩
  · cases c <;> first | exact values | cases idle
  · cases c <;> first | rfl | cases idle

/-- A statement that a server rejects changes nothing there. -/
theorem rejected {c : Connection} {sql : String} {e : SqlError} (stage : Stage first s a t) :
    Stage first s a (t.after i (.execute c sql) (.error e)) :=
  ⟨stage.grown.trans (List.suffix_cons ..), stage.values, stage.accounts⟩

theorem trans {u : Surroundings} (stage : Stage first s a t) (later : Stage first t (t.accounts first) u) :
    Stage first s a u :=
  ⟨stage.grown.trans later.grown, later.values.trans stage.values, later.accounts.trans stage.accounts⟩

theorem accepted {b : Accounts} {c : Connection} {sql : String} (stage : Stage first s a t)
    (heard : a.hear c.target.endpoint sql = b) : Stage first s b (t.after i (.execute c sql) (.ok ())) := by
  obtain ⟨grown, values, rfl⟩ := stage
  exact ⟨grown.trans (List.suffix_cons ..), values, heard⟩

end Stage

/-- Idle steps change nothing. -/
theorem wp_idle {α : Type} {a : Accounts} {p : Program α} (h : Program.Only (·.idle) p) (stage : Stage first s a t) :
    Program.wp (alone i) (fun _ => Stage first s a) p t :=
  Program.wp_of_only (fun _ _ _ idle stage next => alone_iff.2 fun r _ => next r _ (stage.after idle)) h stage

/-- Nor does tending connections. -/
theorem wp_tending {α : Type} {a : Accounts} {p : Program α} (h : Program.Only (·.tends) p) (stage : Stage first s a t) :
    Program.wp (alone i) (fun _ => Stage first s a) p t := wp_idle (Program.only_mono Call.idle_of_tends h) stage

end Surroundings

open Surroundings (Stage)

variable {first a : Accounts} {s t : Surroundings} {i : Nat}

theorem Op.wp_idle {α : Type} {p : Op α} (h : Op.Only (·.idle) p) (stage : Stage first s a t) :
    Op.wp (alone i) (fun _ => Stage first s a) (fun _ => Stage first s a) p t :=
  wp_either.2 (Surroundings.wp_idle h stage)

/-- A connection that is opened leads where the record says. -/
theorem Connections.wp_openDirect (cluster : ClusterRecord) (kind : LoginKind) (stage : Stage first s a t) :
    Op.wp (alone i) (fun c u => Stage first s a u ∧ c.target.endpoint = cluster.endpoint) (fun _ => Stage first s a)
      (openDirect cluster kind) t := by
  refine (wp_bind_ofSql ..).2 (Surroundings.alone_iff.2 fun opened allowed => ?_)
  have stage' := stage.after (i := i) (c := .connect _) (r := opened) rfl
  cases opened with
  | error e => exact stage'
  | ok c =>
    refine (wp_bind_lift ..).2 (Surroundings.alone_iff.2 fun _ _ => ⟨stage'.after rfl, ?_⟩)
    rw [(allowed c rfl).1]
    rfl

namespace Fleet

/-- To rotate a password changes it, or else nothing. -/
theorem wp_rotatePassword {c : Connection} {user : String} (stage : Stage first s a t) :
    Op.wp (alone i) (fun password => Stage first s (a.set c.target.endpoint (loginOf user) password))
      (fun _ u => Stage first s a u ∧ s.Met (Event.RotationFailed c.target.endpoint (loginOf user)) u)
      (rotatePassword c user) t := by
  refine (wp_bind_lift ..).2 (Surroundings.alone_iff.2 fun password _ => ?_)
  have stage := stage.after (i := i) (c := .password) (r := password) rfl
  refine (wp_bind_ofSql ..).2 (Surroundings.alone_iff.2 fun told _ => ?_)
  cases told with
  | error e =>
    refine ⟨stage.rejected, Surroundings.met_here stage.grown ?_⟩
    exact ⟨rfl, password, PasswordStatement.altered?_updatePassword user password⟩
  | ok u =>
    exact stage.accepted (Accounts.hear_updatePassword a _ user password)

/-- To make a management role adds a login, or else changes nothing. -/
theorem wp_createManagementRole {c : Connection} (stage : Stage first s a t) :
    Op.wp (alone i) (fun login => Stage first s (a.add c.target.endpoint (loginOf login.1) login.2))
      (fun _ => Stage first s a) (createManagementRole c) t := by
  refine (wp_bind_lift ..).2 (Surroundings.alone_iff.2 fun id _ => ?_)
  refine (wp_bind_lift ..).2 (Surroundings.alone_iff.2 fun password _ => ?_)
  have stage := (stage.after (i := i) (c := .uuid) (r := id) rfl).after (i := i) (c := .password) (r := password) rfl
  refine (wp_bind_ofSql ..).2 (Surroundings.alone_iff.2 fun told _ => ?_)
  cases told with
  | error e => exact stage.rejected
  | ok u =>
    exact stage.accepted (Accounts.hear_createManagementRole a _ (Names.managementRole id) password)

end Fleet

namespace Accounts

/-- The accounts after a cluster was provisioned. -/
def provision (a : Accounts) (place : Endpoint) (user : String) (logins : Fleet.Logins) : Accounts :=
  (a.add place (loginOf logins.managementRole) logins.managementPassword).set place (loginOf user) logins.rootPassword

/-- The accounts after both passwords of a cluster were rotated. -/
def rotate (a : Accounts) (place : Endpoint) (c : ClusterRecord) (managementPassword rootPassword : String) : Accounts :=
  (a.set place (loginOf c.managementRole) managementPassword).set place (loginOf c.username) rootPassword

section
variable {a : Accounts} {place : Endpoint} {user : String} {logins : Fleet.Logins} {c : ClusterRecord}
  {managementPassword rootPassword : String}

theorem provision_root : a.provision place user logins place (loginOf user) = some logins.rootPassword := set_self

/-- The management role has its password if it is new to the server, and is not the login that makes it. -/
theorem provision_management (unused : a place (loginOf logins.managementRole) = none)
    (apart : loginOf logins.managementRole ≠ loginOf user) :
    a.provision place user logins place (loginOf logins.managementRole) = some logins.managementPassword := by
  refine (set_of_ne fun own => apart own.2).trans ?_
  rw [add, unused]
  exact set_self

theorem rotate_root :
    a.rotate place c managementPassword rootPassword place (loginOf c.username) = some rootPassword := set_self

theorem rotate_management (apart : loginOf c.managementRole ≠ loginOf c.username) :
    a.rotate place c managementPassword rootPassword place (loginOf c.managementRole) = some managementPassword :=
  (set_of_ne fun own => apart own.2).trans set_self

/-- Only the two logins of the cluster have other passwords, and only on this server. -/
theorem rotate_of_ne {e : Endpoint} {login : String}
    (apart : e = place → login ≠ loginOf c.username ∧ login ≠ loginOf c.managementRole) :
    a.rotate place c managementPassword rootPassword e login = a e login :=
  (set_of_ne fun own => (apart own.1).1 own.2).trans (set_of_ne fun own => (apart own.1).2 own.2)

end

end Accounts

/-! ## What a failure leaves changed -/

namespace Command

/-- The logins on a server whose passwords a command had changed before it failed. -/
inductive LeftRotated (s t : Surroundings) : Command → Endpoint → List String → Prop
  | registering {name : String} {request : ClusterRequest} {record : ClusterRecord} (valid : request.validate = .ok record)
      (unwritten : s.Met (Event.WriteFailed (StoreKeys.cluster name)) t) :
      LeftRotated s t (registerCluster name request) record.endpoint [loginOf record.username]
  | rotating {source : String} {request : CloneRequest} {c : ClusterRecord} {port : UInt16}
      (cloned : Replicas.Source source request s.values c port)
      (unrotated : s.Met (Event.RotationFailed ⟨request.host, port⟩ (loginOf c.username)) t) :
      LeftRotated s t (cloneCluster source request) ⟨request.host, port⟩ [loginOf c.managementRole]
  | cloning {source : String} {request : CloneRequest} {c : ClusterRecord} {port : UInt16}
      (cloned : Replicas.Source source request s.values c port)
      (unwritten : s.Met (Event.WriteFailed (StoreKeys.cluster request.target)) t) :
      LeftRotated s t (cloneCluster source request) ⟨request.host, port⟩ [loginOf c.username, loginOf c.managementRole]

/-- Every password is what it was, or else all but those that the command had changed before it failed. -/
def Spares (first : Accounts) (command : Command) (s t : Surroundings) : Prop :=
  (s.accounts first).Kept (t.accounts first) ∨ ∃ place logins,
    command.LeftRotated s t place logins ∧ (s.accounts first).KeptBut place logins (t.accounts first)

theorem Spares.of_stage {command : Command} {b : Accounts} (kept : (s.accounts first).Kept b) (stage : Stage first s b t) :
    command.Spares first s t := .inl (stage.accounts ▸ kept)

end Command

/-! ## Registering -/

namespace Fleet

theorem wp_provisionCluster (c : Connection) (user : String) (stage : Stage first s a t) :
    Op.wp (alone i) (fun logins => Stage first s (a.provision c.target.endpoint user logins))
      (fun _ u => ∃ b, a.Kept b ∧ Stage first s b u) (provisionCluster c user) t := by
  refine wp_seq_inContext (wp_createManagementRole stage) (fun login u stage => ?_)
    fun _ _ stage => ⟨a, .refl a, stage⟩
  refine wp_seq_inContext (wp_rotatePassword stage) (fun password u stage => stage)
    fun _ _ failed => ⟨_, Accounts.kept_add, failed.1⟩

/-- What a registration has made of the accounts, and that the record holds it. -/
def RegisteredWith (first : Accounts) (name : String) (request : ClusterRequest) (s t : Surroundings) : Prop :=
  ∃ record logins, request.validate = .ok record ∧
    t.values.get? (StoreKeys.cluster name) = some ({ record with
      managementRole := logins.managementRole
      managementPassword := logins.managementPassword
      password := logins.rootPassword } : ClusterRecord).encode ∧
    t.accounts first = (s.accounts first).provision record.endpoint record.username logins

theorem wp_enrol_accounts {name : String} {request : ClusterRequest} (stage : Stage first s (s.accounts first) t) :
    Op.wp (alone i) (fun _ => RegisteredWith first name request s)
      (fun _ => (Command.registerCluster name request).Spares first s) (enrol name request) t := by
  refine wp_checked (fun _ _ => .of_stage (.refl _) stage) fun record valid => ?_
  refine wp_seq (Connections.wp_openDirect _ _ stage) (fun c u opened => ?_)
    fun _ _ stage => Command.Spares.of_stage (.refl _) stage
  obtain ⟨stage, place⟩ := opened
  refine wp_seq_andAlways (wp_provisionCluster _ _ stage) (fun logins v stage => ?_) fun _ v failed => ?_
  case refine_2 =>
    obtain ⟨b, kept, stage⟩ := failed
    exact Program.wp_mono (fun _ _ stage => Command.Spares.of_stage kept stage)
      (Surroundings.wp_tending Connections.tends_closeQuietly stage)
  refine Program.wp_mono (fun _ w stage => ?_) (Surroundings.wp_tending Connections.tends_closeQuietly stage)
  rw [place] at stage
  refine (wp_bind_ofStore ..).2 (Surroundings.alone_iff.2 fun stored _ => ?_)
  cases stored with
  | error failure =>
    refine .inr ⟨_, _, .registering valid (Surroundings.met_here stage.grown rfl), ?_⟩
    exact stage.accounts ▸ Accounts.kept_add.set
  | ok done =>
    refine wp_seq_lift (Surroundings.wp_tending Connections.tends_invalidate (.refl first _)) fun closed x stage' => ?_
    have registered : RegisteredWith first name request s x := by
      refine ⟨record, logins, valid, ?_, stage'.accounts.trans stage.accounts⟩
      rw [stage'.values]
      exact Table.get?_insert_self ..
    cases closed <;> exact registered

theorem wp_registerCluster_accounts {name : String} {request : ClusterRequest} :
    Op.wp (alone i) (fun _ => RegisteredWith first name request s)
      (fun _ => (Command.registerCluster name request).Spares first s) (registerCluster name request) s := by
  have looking : Op.wp (alone i) (fun _ => Stage first s (s.accounts first)) (fun _ => Stage first s (s.accounts first))
      (loadCluster name) s :=
    wp_idle (Op.only_mono Call.idle_of_quiet only_loadRecord) (.refl first s)
  refine wp_registerCluster (fun _ => .of_stage (.refl _) (.refl first s))
    (wp_mono looking (fun _ t stage => ?_) fun _ _ => .of_stage (.refl _))
  exact ⟨fun _ => .of_stage (.refl _) stage, wp_enrol_accounts stage⟩

end Fleet

/-! ## Cloning -/

namespace Replicas

variable {source : String} {request : CloneRequest}

/-- Where the second password could not be changed the first one was. -/
theorem wp_rotateBoth {c : Connection} {record : ClusterRecord} (stage : Stage first s a t) :
    Op.wp (alone i) (fun passwords => Stage first s (a.rotate c.target.endpoint record passwords.1 passwords.2))
      (fun _ u => Stage first s a u ∨
        s.Met (Event.RotationFailed c.target.endpoint (loginOf record.username)) u ∧
          ∃ password, Stage first s (a.set c.target.endpoint (loginOf record.managementRole) password) u)
      (rotateBoth c record) t := by
  refine wp_seq_inContext (Fleet.wp_rotatePassword stage) (fun management u stage => ?_)
    fun _ _ failed => .inl failed.1
  refine wp_seq_inContext (Fleet.wp_rotatePassword stage) (fun root v stage => stage)
    fun _ _ failed => ?_
  exact .inr ⟨failed.2, management, failed.1⟩

/-- What a clone has made of the accounts, and that its record holds it. -/
def ClonedWith (first : Accounts) (source : String) (request : CloneRequest) (s t : Surroundings) : Prop :=
  ∃ c port managementPassword rootPassword, Source source request s.values c port ∧
    t.values.get? (StoreKeys.cluster request.target) = some ({ c with
      host := request.host
      port := port
      managementPassword := managementPassword
      password := rootPassword } : ClusterRecord).encode ∧
    t.accounts first = (s.accounts first).rotate ⟨request.host, port⟩ c managementPassword rootPassword

/-- Copying databases changes neither the record of the clone nor the accounts. -/
theorem wp_copyDatabases (first : Accounts) {target : String} {inheritDeleted : Bool} {v : String}
    (stored : t.values.get? (StoreKeys.cluster target) = some v) :
    Program.wp (alone i) (fun _ u => u.values.get? (StoreKeys.cluster target) = some v ∧ u.accounts first = t.accounts first)
      (copyDatabases source target inheritDeleted) t := by
  have calls : Program.Only (fun c => c.idle ∨ ∃ d v, c = .put (StoreKeys.database target d) v)
      (copyDatabases source target inheritDeleted) :=
    calls_copyDatabases (.inl rfl) (fun _ => .inl rfl) (fun d v => .inr ⟨d, v, rfl⟩) inheritDeleted
  refine Program.wp_of_only (D := alone i)
    (I := fun u => u.values.get? (StoreKeys.cluster target) = some v ∧ u.accounts first = t.accounts first)
    (fun c K u copies kept next => Surroundings.alone_iff.2 fun r _ => next r _ ?_) calls ⟨stored, rfl⟩
  rcases copies with idle | ⟨d, value, rfl⟩
  · have stage := (Stage.refl first u).after (i := i) (r := r) idle
    exact ⟨stage.values ▸ kept.1, stage.accounts.trans kept.2⟩
  · refine ⟨?_, kept.2⟩
    cases r with
    | error e => exact kept.1
    | ok done => exact (Table.get?_insert_of_ne _ _ (StoreKeys.cluster_ne_own_database target d)).trans kept.1

theorem wp_cloneCluster_accounts : Op.wp (alone i) (fun _ => ClonedWith first source request s)
    (fun _ => (Command.cloneCluster source request).Spares first s) (cloneCluster source request) s := by
  have untouched {t : Surroundings} (stage : Stage first s (s.accounts first) t) :
      (Command.cloneCluster source request).Spares first s t :=
    .of_stage (.refl _) stage
  have checking : Op.wp (alone i) (fun _ => Stage first s (s.accounts first)) (fun _ => Stage first s (s.accounts first))
      (checkClone source request) s :=
    wp_idle (Op.only_mono Call.idle_of_quiet only_checkClone) (.refl first s)
  refine wp_seq (wp_both wp_checkClone checking) (fun record t checked => ?_)
    fun _ _ failed => untouched failed.2
  obtain ⟨⟨-, -, c, port, cloned, rfl⟩, stage⟩ := checked
  refine wp_seq (wp_idle (Op.only_mono Call.idle_of_tends tends_tryManagement) stage)
    (fun warnings t stage => ?_) fun _ _ => untouched
  refine wp_seq_inContext (Connections.wp_openDirect _ _ stage) (fun root t opened => ?_)
    fun _ _ => untouched
  obtain ⟨stage, place⟩ := opened
  replace place : root.target.endpoint = ⟨request.host, port⟩ := place
  refine wp_seq_andAlways (wp_rotateBoth stage) (fun passwords u stage => ?_) fun _ u failed => ?_
  case refine_2 =>
    refine Program.wp_mono (fun _ v closed => ?_) (Surroundings.wp_tending Connections.tends_closeQuietly (.refl first u))
    rcases failed with stage | ⟨met, password, stage⟩
    · exact untouched (stage.trans closed)
    · rw [place] at met stage
      refine .inr ⟨_, _, .rotating cloned (met.later closed.grown), ?_⟩
      exact (stage.trans closed).accounts ▸ (Accounts.Kept.refl _).set
  refine Program.wp_mono (fun _ v stage => ?_) (Surroundings.wp_tending Connections.tends_closeQuietly stage)
  rw [place] at stage
  refine (wp_bind_inContext ..).2 ((wp_ofStore _).2 (Surroundings.alone_iff.2 fun stored _ => ?_))
  cases stored with
  | error failure =>
    refine .inr ⟨_, _, .cloning cloned (Surroundings.met_here stage.grown rfl), ?_⟩
    exact stage.accounts ▸ (Accounts.Kept.refl _).set.set
  | ok done =>
    refine wp_seq_lift (wp_copyDatabases first (Table.get?_insert_self ..)) fun tallied x copied => ?_
    exact ⟨c, port, passwords.1, passwords.2, cloned, copied.1, copied.2.trans stage.accounts⟩

end Replicas

/-! ## Commands that fail -/

namespace Accounts

/-- On one server there is only the root login, with the password that is submitted for it. -/
def submitted : Accounts := set (fun _ _ => none) ⟨"db", 5432⟩ "root" Session.exampleRequest.password

theorem submitted_root : submitted ⟨"db", 5432⟩ "root" = some Session.exampleRequest.password := set_self

theorem submitted_of_ne {place : Endpoint} {login : String} (other : login ≠ "root") : submitted place login = none :=
  set_of_ne fun own => other own.2

end Accounts

namespace Command

/-- The commands that change passwords. -/
inductive Rotates : Command → Prop
  | registering (name : String) (request : ClusterRequest) : Rotates (registerCluster name request)
  | cloning (source : String) (request : CloneRequest) : Rotates (cloneCluster source request)

/-- A failed registration or clone leaves every password as it was, but for those that it had changed before it failed:
    the root password when the record of a new cluster could not be written, the password of the management role when
    that of the root login of a clone could not be changed, and both when the record of the clone could not be written. -/
theorem passwords_kept_or_left_rotated {command : Command} {e : BrokerError} (rotates : command.Rotates)
    (run : Surroundings.Runs i command.op.run s (.error e) t) :
    (s.accounts first).Kept (t.accounts first) ∨ ∃ place logins,
      command.LeftRotated s t place logins ∧ (s.accounts first).KeptBut place logins (t.accounts first) := by
  have failed : Op.wp (alone i) (fun _ _ => True) (fun _ => command.Spares first s) command.op s := by
    cases rotates with
    | registering name request =>
      exact wp_unkept.2 (wp_mono Fleet.wp_registerCluster_accounts (fun _ _ _ => trivial) fun _ _ spares => spares)
    | cloning source request =>
      exact wp_unkept.2 (wp_mono Replicas.wp_cloneCluster_accounts (fun _ _ _ => trivial) fun _ _ spares => spares)
  exact Program.wp_demonic_iff.1 failed _ _ run

/-- A registration can fail when the root password is already another one. -/
theorem runs_unwritten : ∃ t e,
    Surroundings.Runs 0 (registerCluster "main" Session.exampleRequest).op.run .blank (.error e) t ∧
      t.accounts .submitted ⟨"db", 5432⟩ "root" = some "second" := by
  have main : Names.isName "main" := by decide +kernel
  obtain ⟨record, fine, place, login⟩ : ∃ record, Session.exampleRequest.validate = .ok record ∧
      record.endpoint = ⟨"db", 5432⟩ ∧ loginOf record.username = "root" := ⟨_, rfl, rfl, by decide +kernel⟩
  have unregistered : Loads ClusterRecord.decode Surroundings.blank.values (StoreKeys.cluster "main") none := rfl
  have rotated : Op.wp (lucky 0) (fun _ _ => False)
      (fun _ t => t.accounts .submitted ⟨"db", 5432⟩ "root" = some "second")
      (registerCluster "main" Session.exampleRequest).op .blank := by
    refine wp_unkept.2 (wp_passed (check_of_isName main) (wp_lucky_load unregistered fun t same => ?_))
    refine wp_passed fine ?_
    have dialling := wp_lucky_and (Connections.works_openUncached labour_lucky t same)
      (Connections.wp_openDirect (i := 0) record .root (.refl .submitted t))
    refine wp_seq dialling (fun c u opened => ?_) fun _ _ failed => failed.1.2.elim
    obtain ⟨-, stage, leads⟩ := opened
    have provisioning := wp_lucky_and (Fleet.wp_lucky_provisionCluster 0 "" "second")
      (Fleet.wp_provisionCluster (i := 0) c record.username stage)
    refine wp_seq_andAlways provisioning (fun logins v ended => ?_) fun _ _ failed => failed.1.elim
    obtain ⟨⟨rfl, -⟩, stage⟩ := ended
    refine Program.wp_mono (fun _ w stage => ?_) (Surroundings.wp_lucky_of_alone
      (Surroundings.wp_tending Connections.tends_closeQuietly stage))
    refine (wp_bind_ofStore ..).2 (Surroundings.lucky_iff.2 ⟨.error (.backend ""), trivial, ?_⟩)
    show w.accounts .submitted ⟨"db", 5432⟩ "root" = some "second"
    rw [stage.accounts, leads, place, Accounts.provision, login]
    exact Accounts.set_self
  obtain ⟨reply, t, run, ended⟩ := Program.wp_angelic_iff.1 rotated
  cases reply with
  | ok a => exact ended.elim
  | error e => exact ⟨t, e, run, ended⟩

/-- What such a registration leaves behind. -/
theorem unwritten_registration_rotates_root : ∃ t e,
    Surroundings.Runs 0 (registerCluster "main" Session.exampleRequest).op.run .blank (.error e) t ∧
      t.accounts .submitted ⟨"db", 5432⟩ "root" = some "second" ∧
      ((Surroundings.blank.accounts .submitted).Kept (t.accounts .submitted) ∨ ∃ place logins,
        (registerCluster "main" Session.exampleRequest).LeftRotated .blank t place logins ∧
          (Surroundings.blank.accounts .submitted).KeptBut place logins (t.accounts .submitted)) := by
  obtain ⟨t, e, run, rotated⟩ := runs_unwritten
  exact ⟨t, e, run, rotated, passwords_kept_or_left_rotated (.registering ..) run⟩

/-- The submitted password, which nobody else has changed, is good no more, and nobody knows the one that is. -/
theorem unwritten_registration_loses_password : ∃ t e,
    Surroundings.Runs 0 (registerCluster "main" Session.exampleRequest).op.run .blank (.error e) t ∧
      Surroundings.blank.accounts .submitted ⟨"db", 5432⟩ "root" = some Session.exampleRequest.password ∧
      t.accounts .submitted ⟨"db", 5432⟩ "root" ≠ some Session.exampleRequest.password := by
  obtain ⟨t, e, run, rotated⟩ := runs_unwritten
  refine ⟨t, e, run, Accounts.submitted_root, ?_⟩
  rw [rotated]
  decide +kernel

end Command

end LeaseBroker
