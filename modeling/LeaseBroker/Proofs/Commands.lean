import LeaseBroker.Proofs.FailedRequests
import LeaseBroker.Proofs.RestingConnections

/-!
All that the broker can be asked to do, and what comes of it in the store. A
command that fails leaves every value as it was, and one that succeeds changes
little (`Alters`): its own record, and for a clone also those of databases.
What else there is to say about the records between commands follows from that.
-/
namespace LeaseBroker

open Op
open Program (Demands Monotone)
open Surroundings (alone Untouched Resting)

variable {α β σ : Type}

/-- What the broker can be asked without changing anything. -/
inductive Inquiry where
  | metrics
  | clusters
  | cluster (name : String)
  | databases (cluster : String)
  | database (cluster name : String)
  | deletedClusters
  | deletedCluster (name : String)
  | deletedDatabases (cluster : String)
  | deletedDatabase (cluster name : String)
  | roles
  | role (name : String)
  | tagged (target : TagTarget) (query : Table String)
  | tags

/-- What the broker can be asked to do. -/
inductive Command where
  | registerCluster (name : String) (request : ClusterRequest)
  | deleteCluster (name : String)
  | purgeCluster (name : String)
  | cloneCluster (source : String) (request : CloneRequest)
  | registerDatabase (cluster name : String) (request : DatabaseRequest)
  | deleteDatabase (cluster name : String)
  | purgeDatabase (cluster name : String)
  | writeRole (limits : LeaseLimits) (name : String) (request : RoleRequest)
  | deleteRole (name : String)
  | writeTags (cluster : String) (database : Option String) (tags : Table String)
  | eraseTags (id : String)
  | issueCredential (settings : Settings) (cluster database role displayName : String)
  | renewCredential (settings : Settings) (secret : LeaseSecret) (increment : Span) (issued : Instant)
  | revokeCredential (secret : LeaseSecret)
  | inquire (about : Inquiry)
  | shutDown

/-- An operation of which the result is not kept. -/
def Op.unkept (p : Op α) : Op (Option Credential) := do
  let _ ← p
  return none

def Inquiry.op : Inquiry → Op (Option Credential)
  | metrics => (liftM Program.metrics : Op Metrics).unkept
  | clusters => Fleet.listClusters.unkept
  | cluster name => (Fleet.readCluster name).unkept
  | databases c => (Fleet.listDatabases c).unkept
  | database c name => (Fleet.readDatabase c name).unkept
  | deletedClusters => Reclaim.listClusters.unkept
  | deletedCluster name => (Reclaim.readCluster name).unkept
  | deletedDatabases c => (Reclaim.listDatabases c).unkept
  | deletedDatabase c name => (Reclaim.readDatabase c name).unkept
  | roles => RoleTemplates.listRoles.unkept
  | role name => (RoleTemplates.readRole name).unkept
  | tagged target query => (TagIndex.lookup target query).unkept
  | tags => TagIndex.listing.unkept

/-- What a command does. Of its result only a new credential is of interest. -/
def Command.op : Command → Op (Option Credential)
  | registerCluster name request => (Fleet.registerCluster name request).unkept
  | deleteCluster name => (Fleet.deleteCluster name).unkept
  | purgeCluster name => (Reclaim.purgeCluster name).unkept
  | cloneCluster source request => (Replicas.cloneCluster source request).unkept
  | registerDatabase cluster name request => (Fleet.registerDatabase cluster name request).unkept
  | deleteDatabase cluster name => (Fleet.deleteDatabase cluster name).unkept
  | purgeDatabase cluster name => (Reclaim.purgeDatabase cluster name).unkept
  | writeRole limits name request => (RoleTemplates.writeRole limits name request).unkept
  | deleteRole name => (RoleTemplates.deleteRole name).unkept
  | writeTags cluster database tags => (TagIndex.write cluster database tags).unkept
  | eraseTags id => (TagIndex.erase id).unkept
  | issueCredential settings cluster database role displayName => do
    return some (← Credentials.issueCredential settings cluster database role displayName)
  | renewCredential settings secret increment issued =>
    (Credentials.renewCredential settings secret increment issued).unkept
  | revokeCredential secret => (Credentials.revokeCredential secret).unkept
  | inquire about => about.op
  | shutDown => (liftM (Connections.invalidate .everything) : Op (Except SqlError Nat)).unkept

theorem wp_unkept {D : Demands σ} {ok : Option Credential → σ → Prop} {fail : BrokerError → σ → Prop} {p : Op α} {s : σ} :
    Op.wp D ok fail p.unkept s ↔ Op.wp D (fun _ => ok none) fail p s := wp_bind ..

theorem Inquiry.only_op (about : Inquiry) : Op.Only (·.quiet) about.op := by
  have unkept {α : Type} {p : Op α} (h : Op.Only (·.quiet) p) : Op.Only (·.quiet) p.unkept :=
    only_bind h fun _ => only_pure _
  cases about with
  | metrics => exact unkept (only_lift (Program.only_call rfl))
  | clusters => exact unkept only_children
  | cluster name => exact unkept Fleet.only_readCluster
  | databases cluster => exact unkept only_children
  | database cluster name => exact unkept Fleet.only_readDatabase
  | deletedClusters => exact unkept Reclaim.only_listClusters
  | deletedCluster name => exact unkept Reclaim.only_readCluster
  | deletedDatabases cluster => exact unkept Reclaim.only_listDatabases
  | deletedDatabase cluster name => exact unkept Reclaim.only_readDatabase
  | roles => exact unkept only_children
  | role name => exact unkept RoleTemplates.only_readRole
  | tagged target query => exact unkept TagIndex.only_lookup
  | tags => exact unkept TagIndex.only_listing

namespace Command

/-! ## Commands that fail -/

theorem careful_op (command : Command) (i : Nat) (s : Surroundings) : Op.Careful i s command.op := by
  have unkept {α : Type} {p : Op α} (h : Op.Careful i s p) : Op.Careful i s p.unkept := fun t same =>
    wp_unkept.2 (wp_mono (h t same) (fun _ _ h => h) fun _ _ h => h)
  cases command with
  | registerCluster name request => exact unkept Fleet.careful_registerCluster
  | deleteCluster name => exact unkept Fleet.careful_deleteCluster
  | purgeCluster name => exact unkept Reclaim.careful_purgeCluster
  | cloneCluster source request => exact unkept Replicas.careful_cloneCluster
  | registerDatabase cluster name request => exact unkept Fleet.careful_registerDatabase
  | deleteDatabase cluster name => exact unkept Fleet.careful_deleteDatabase
  | purgeDatabase cluster name => exact unkept Reclaim.careful_purgeDatabase
  | writeRole limits name request => exact unkept RoleTemplates.careful_writeRole
  | deleteRole name => exact unkept (careful_of_diligent diligent_delete)
  | writeTags cluster database tags => exact unkept TagIndex.careful_write
  | eraseTags id => exact unkept TagIndex.careful_erase
  | issueCredential settings cluster database role displayName =>
    exact fun t same => wp_seq (Credentials.careful_issueCredential t same) (fun _ _ h => h) fun _ _ h => h
  | renewCredential settings secret increment issued => exact unkept Credentials.careful_renewCredential
  | revokeCredential secret => exact unkept Credentials.careful_revokeCredential
  | inquire about => exact careful_quiet about.only_op
  | shutDown =>
    refine unkept (careful_of_diligent (diligent_of_works ?_))
    exact works_lift labour_alone Connections.only_invalidate

/-- A command that fails leaves every value as it was. -/
theorem values_of_failed {command : Command} {i : Nat} {s t : Surroundings} {e : BrokerError}
    (run : Surroundings.Runs i command.op.run s (.error e) t) : t.values = s.values :=
  (Program.wp_demonic_iff.1 (command.careful_op i s s (.refl s)) _ _ run).1

/-! ## What commands keep -/

/-- The writes of a command keep `I`. -/
def Frees (D : Demands σ) (I : σ → Prop) : Command → Prop
  | registerCluster name _ => Renewable D I name
  | deleteCluster name => Renewable D I name
  | purgeCluster name => Renewable D I name
  | cloneCluster _ request => Free D I (StoreKeys.cluster request.target) ∧
      ∀ name d, Op.Keeps D I (saveDatabase request.target name d)
  | registerDatabase cluster name _ => Free D I (StoreKeys.database cluster name)
  | deleteDatabase cluster name => Free D I (StoreKeys.database cluster name)
  | purgeDatabase cluster name => Free D I (StoreKeys.database cluster name)
  | writeRole _ name _ => Free D I (StoreKeys.role name)
  | deleteRole name => Free D I (StoreKeys.role name)
  | writeTags .. => ∀ id, Free D I (StoreKeys.tagSet id)
  | eraseTags id => Free D I (StoreKeys.tagSet id)
  | _ => True

theorem keeps_unkept {D : Demands σ} [Monotone D] {I : σ → Prop} {p : Op α} (h : Op.Keeps D I p) :
    Op.Keeps D I p.unkept := works_bind h fun _ => works_pure _

theorem keeps_op {D : Demands σ} [Monotone D] {I : σ → Prop} (h : Habit D I) (command : Command)
    (frees : command.Frees D I) : Op.Keeps D I command.op := by
  cases command with
  | registerCluster name request => exact keeps_unkept (h.keeps_registerCluster frees)
  | deleteCluster name => exact keeps_unkept (h.keeps_deleteCluster frees)
  | purgeCluster name => exact keeps_unkept (h.keeps_purgeCluster frees)
  | cloneCluster source request => exact keeps_unkept (h.keeps_cloneCluster frees.1 frees.2)
  | registerDatabase cluster name request => exact keeps_unkept (h.keeps_registerDatabase frees)
  | deleteDatabase cluster name => exact keeps_unkept (h.keeps_deleteDatabase frees)
  | purgeDatabase cluster name => exact keeps_unkept (h.keeps_purgeDatabase frees)
  | writeRole limits name request => exact keeps_unkept (keeps_writeRole frees)
  | deleteRole name => exact keeps_unkept (keeps_delete frees)
  | writeTags cluster database tags => exact keeps_unkept (h.keeps_writeTags frees)
  | eraseTags id => exact keeps_unkept (keeps_eraseTags frees)
  | issueCredential settings cluster database role displayName =>
    exact works_bind h.keeps_issueCredential fun _ => works_pure _
  | renewCredential settings secret increment issued => exact keeps_unkept h.keeps_renewCredential
  | revokeCredential secret => exact keeps_unkept h.keeps_revokeCredential
  | inquire about => exact h.keeps_quiet about.only_op
  | shutDown => exact keeps_unkept (h.invalidate _)

/-! ## What commands change -/

/-- What a command that succeeds may leave under a key. -/
def Alters (values : Table String) (key : String) (left : Option String) : Command → Prop
  | registerCluster name _ => key = StoreKeys.cluster name ∧ Names.isName name
  | deleteCluster name => key = StoreKeys.cluster name ∧ ∃ c : ClusterRecord,
      Loads ClusterRecord.decode values key (some c) ∧ left = some { c with disabled := true }.encode
  | purgeCluster name => key = StoreKeys.cluster name ∧ ∃ c, Loads ClusterRecord.decode values key (some c)
  | cloneCluster _ request =>
    (key = StoreKeys.cluster request.target ∨
        ∃ name, key = StoreKeys.database request.target name ∧ ∃ d : DatabaseRecord, left = some d.encode) ∧
      Names.isName request.target ∧ values.get? (StoreKeys.cluster request.target) = none
  | registerDatabase c name _ => key = StoreKeys.database c name ∧ Names.isName c ∧ Names.isName name ∧
      ∃ d : DatabaseRecord, left = some d.encode
  | deleteDatabase c name => key = StoreKeys.database c name ∧ ∃ d : DatabaseRecord,
      Loads DatabaseRecord.decode values key (some d) ∧ left = some { d with disabled := true }.encode
  | purgeDatabase c name => key = StoreKeys.database c name ∧ left = none
  | writeRole _ name _ => key = StoreKeys.role name
  | deleteRole name => key = StoreKeys.role name
  | writeTags .. => ∃ id, key = StoreKeys.tagSet id
  | eraseTags id => key = StoreKeys.tagSet id
  | _ => False

section
variable {i : Nat} {s t : Surroundings} {command : Command} {reply : Except BrokerError (Option Credential)}
  {a : Option Credential}

theorem of_wp_op {Q : Surroundings → Prop} (run : Surroundings.Runs i command.op.run s (.ok a) t)
    (h : Op.wp (alone i) (fun _ => Q) (fun _ _ => True) command.op s) : Q t := Program.wp_demonic_iff.1 h _ _ run

theorem value_of_frees {P : Option String → Prop} {key : String}
    (run : Surroundings.Runs i command.op.run s (.ok a) t) (start : P (s.values.get? key))
    (frees : command.Frees (alone i) fun s => P (s.values.get? key)) : P (t.values.get? key) := by
  have kept := keeps_op (routine_values (P := fun values => P (values.get? key))).habit command frees s start
  exact of_wp_op run (wp_mono kept (fun _ _ later => later) fun _ _ _ => trivial)

/-- A clone that succeeds bears a name, and there was no record in its place. -/
theorem checked_of_cloned {source : String} {request : CloneRequest}
    (run : Surroundings.Runs i (cloneCluster source request).op.run s (.ok a) t) :
    Names.isName request.target ∧ s.values.get? (StoreKeys.cluster request.target) = none := by
  refine of_wp_op (Q := fun _ => _) run (wp_unkept.2 (wp_seq Replicas.wp_checkClone
    (fun record u checked => ?_) fun _ _ _ => trivial))
  exact wp_mono (wp_either.2 (Surroundings.wp_alone_any _ u)) (fun _ _ _ => checked.2.1) fun _ _ _ => trivial

/-- Under a key there is what was there before, or the record of a database. -/
def CopiedOrSame (before : Table String) (key : String) (x : Option String) : Prop :=
  x = before.get? key ∨ ∃ d : DatabaseRecord, x = some d.encode

/-- So it is for a clone and the key of a database. -/
theorem copied_or_same {source : String} {request : CloneRequest} {key : String}
    (other : key ≠ StoreKeys.cluster request.target)
    (run : Surroundings.Runs i (cloneCluster source request).op.run s (.ok a) t) :
    CopiedOrSame s.values key (t.values.get? key) := by
  refine value_of_frees (P := CopiedOrSame s.values key) run (.inl rfl) ⟨free_other other.symm, fun name d => ?_⟩
  by_cases own : StoreKeys.database request.target name = key
  · refine keeps_ofStore fun u inside => Surroundings.alone_iff.2 fun stored _ => ?_
    cases stored with
    | error e => exact inside
    | ok done => exact .inr ⟨d, own ▸ Table.get?_insert_self ..⟩
  · exact keeps_put (free_other own)

/-- Under a key there is what was there before, or nothing. -/
def ErasedOrSame (before : Table String) (key : String) (values : Table String) : Prop :=
  values.get? key = before.get? key ∨ values.get? key = none

/-- So it is after a purge. -/
theorem purged_or_same {c name key : String} (own : key = StoreKeys.database c name)
    (run : Surroundings.Runs i (purgeDatabase c name).op.run s (.ok a) t) : ErasedOrSame s.values key t.values := by
  have habit : Habit (alone i) (fun t => ErasedOrSame s.values key t.values) := routine_values.habit
  have kept : Op.Keeps (alone i) (fun t => ErasedOrSame s.values key t.values) (Reclaim.purgeDatabase c name) := by
    refine works_bind (habit.keeps_quiet Reclaim.only_readDatabase) fun _ => works_bind ?_ fun _ => habit.keeps_flushed
    refine keeps_ofStore fun u inside => Surroundings.alone_iff.2 fun erased _ => ?_
    cases erased with
    | error e => exact inside
    | ok done => exact .inr (own ▸ Table.get?_erase_self ..)
  exact of_wp_op run (wp_mono (keeps_unkept kept s (.inl rfl)) (fun _ _ later => later) fun _ _ _ => trivial)

/-- A command that succeeds changes no more than its own records. -/
theorem alters_of_succeeded (run : Surroundings.Runs i command.op.run s (.ok a) t) (key : String) :
    t.values.get? key = s.values.get? key ∨ command.Alters s.values key (t.values.get? key) := by
  have frame (frees : command.Frees (alone i) fun u => u.values.get? key = s.values.get? key) :
      t.values.get? key = s.values.get? key := value_of_frees (P := (· = s.values.get? key)) run rfl frees
  have free {other : String} (different : key ≠ other) :
      Free (alone i) (fun u => u.values.get? key = s.values.get? key) other := free_other (P := (· = _)) different.symm
  have renewable {name : String} (different : key ≠ StoreKeys.cluster name) :
      Renewable (alone i) (fun u => u.values.get? key = s.values.get? key) name :=
    (routine_values (P := fun values => values.get? key = _)).habit.renewable (free different)
  cases command with
  | registerCluster name request =>
    by_cases own : key = StoreKeys.cluster name
    · subst own
      obtain ⟨results, decided, -⟩ := of_wp_op run (wp_unkept.2 ((Fleet.registerClusterChange name request).wp_decided rfl))
      exact .inr ⟨rfl, (Fleet.decideRegistration_eq_write decided).1⟩
    · exact .inl (frame (renewable own))
  | deleteCluster name =>
    by_cases own : key = StoreKeys.cluster name
    · subst own
      obtain ⟨results, decided, result⟩ := of_wp_op run (wp_unkept.2 ((Fleet.deleteClusterChange name).wp_decided rfl))
      obtain ⟨c, loads, -, rfl⟩ := Fleet.deletion_eq_write decided
      exact .inr ⟨rfl, c, loads, result⟩
    · exact .inl (frame (renewable own))
  | purgeCluster name =>
    by_cases own : key = StoreKeys.cluster name
    · subst own
      obtain ⟨results, decided, -⟩ := of_wp_op run (wp_unkept.2 ((Reclaim.purgeClusterChange name).wp_decided rfl))
      obtain ⟨c, loads, -⟩ := Reclaim.purging_eq_write decided
      exact .inr ⟨rfl, c, loads⟩
    · exact .inl (frame (renewable own))
  | cloneCluster source request =>
    have checked := checked_of_cloned run
    by_cases own : key = StoreKeys.cluster request.target
    · exact .inr ⟨.inl own, checked⟩
    · by_cases listed : ∃ name, key = StoreKeys.database request.target name
      · obtain ⟨name, rfl⟩ := listed
        exact (copied_or_same own run).imp id fun copied => ⟨.inr ⟨name, rfl, copied⟩, checked⟩
      · exact .inl (frame ⟨free own, fun name d => keeps_put (free fun same => listed ⟨name, same⟩)⟩)
  | registerDatabase c name request =>
    by_cases own : key = StoreKeys.database c name
    · subst own
      obtain ⟨results, decided, result⟩ :=
        of_wp_op run (wp_unkept.2 ((Fleet.registerDatabaseChange c name request).wp_decided rfl))
      obtain ⟨valid, valid', -, rfl⟩ := Fleet.decideEnlisting_eq_write decided
      obtain ⟨owner, -, left⟩ := result
      exact .inr ⟨rfl, valid, valid', _, left⟩
    · exact .inl (frame (free own))
  | deleteDatabase c name =>
    by_cases own : key = StoreKeys.database c name
    · subst own
      obtain ⟨results, decided, result⟩ := of_wp_op run (wp_unkept.2 ((Fleet.deleteDatabaseChange c name).wp_decided rfl))
      obtain ⟨d, loads, -, rfl⟩ := Fleet.decideDelisting_eq_write decided
      exact .inr ⟨rfl, d, loads, result⟩
    · exact .inl (frame (free own))
  | purgeDatabase c name =>
    by_cases own : key = StoreKeys.database c name
    · exact (purged_or_same own run).imp id fun gone => ⟨own, gone⟩
    · exact .inl (frame (free own))
  | writeRole limits name request =>
    by_cases own : key = StoreKeys.role name
    · exact .inr own
    · exact .inl (frame (free own))
  | deleteRole name =>
    by_cases own : key = StoreKeys.role name
    · exact .inr own
    · exact .inl (frame (free own))
  | writeTags c database tags =>
    by_cases own : ∃ id, key = StoreKeys.tagSet id
    · exact .inr own
    · exact .inl (frame fun id => free fun same => own ⟨id, same⟩)
  | eraseTags id =>
    by_cases own : key = StoreKeys.tagSet id
    · exact .inr own
    · exact .inl (frame (free own))
  | issueCredential | renewCredential | revokeCredential | inquire | shutDown => exact .inl (frame trivial)

end

/-! ## Commands that can succeed -/

section
open Surroundings (lucky)
variable {i : Nat} {s : Surroundings}

theorem runs_of_lucky {command : Command} {Q : Option Credential → Surroundings → Prop}
    (h : Op.wp (lucky i) Q (fun _ _ => False) command.op s) :
    ∃ a t, Surroundings.Runs i command.op.run s (.ok a) t ∧ Q a t := by
  obtain ⟨reply, t, run, ended⟩ := Program.wp_angelic_iff.1 h
  cases reply with
  | error e => exact ended.elim
  | ok a => exact ⟨a, t, run, ended⟩

theorem runs_of_unkept {command : Command} {p : Op α} {P : Surroundings → Prop} (does : command.op = p.unkept)
    (h : Op.wp (lucky i) (fun _ => P) (fun _ _ => False) p s) :
    ∃ t, Surroundings.Runs i command.op.run s (.ok none) t ∧ P t := by
  have ends : Op.wp (lucky i) (fun a t => a = none ∧ P t) (fun _ _ => False) command.op s := by
    rw [does]
    exact wp_unkept.2 (wp_mono h (fun _ _ holds => ⟨rfl, holds⟩) fun _ _ => id)
  obtain ⟨a, t, run, rfl, holds⟩ := runs_of_lucky ends
  exact ⟨t, run, holds⟩

/-- A command that disposes of a cluster that it does not refuse can succeed. -/
theorem runs_disposing {command : Command} {name : String} {decides : Option ClusterRecord → Decision}
    {missing why : Refusal} {barred : ClusterRecord → Bool} {left : ClusterRecord → Option String}
    {write : ClusterRecord → Op Unit} {outcome : Outcome Unit} {c : ClusterRecord}
    (disposes : Fleet.Disposes decides missing why barred left)
    (does : command.op = (do
      let c ← Fleet.readUnless name missing why barred
      write c
      Fleet.flushed (.cluster name) outcome : Op (Outcome Unit)).unkept)
    (writing : ∀ (c : ClusterRecord) {t : Surroundings} {fail}, Still (Beyond name) s.values t →
      Op.wp (lucky i) (fun _ => Written (StoreKeys.cluster name) (Beyond name) s.values (left c)) fail (write c) t)
    (stored : Loads ClusterRecord.decode s.values (StoreKeys.cluster name) (some c)) (spared : barred c = false) :
    ∃ t, Surroundings.Runs i command.op.run s (.ok none) t ∧ t.values.get? (StoreKeys.cluster name) = left c := by
  have decided : Decision.byRecord ClusterRecord.decode decides (s.values.get? (StoreKeys.cluster name)) =
      .write (· = left c) := by
    refine (Decision.byRecord_of_means stored).trans ?_
    rw [disposes.some, spared]
    rfl
  obtain ⟨t, run, written, -⟩ := runs_of_unkept (i := i) does
    (Fleet.attains_disposing disposes (fun _ _ => rfl) writing (Decision.allows_of_write decided rfl))
  exact ⟨t, run, written⟩

theorem check_of_isName {kind name : String} (valid : Names.isName name) : checkName kind name = .ok () := if_pos valid

/-- A cluster can be registered where there is none that was deleted, and its logins be any that can be made up. -/
theorem wp_lucky_registerCluster {name : String} {request : ClusterRequest} {record : ClusterRecord}
    (valid : Names.isName name) (fine : request.validate = .ok record)
    (registrable : Fleet.Registrable (s.values.get? (StoreKeys.cluster name)))
    (id : Uuid) (managementPassword rootPassword : String) :
    Op.wp (lucky i)
      (fun _ t => t.values.get? (StoreKeys.cluster name) = some ({ record with
          managementRole := Names.managementRole id, managementPassword, password := rootPassword } : ClusterRecord).encode ∧
        Still (Beyond name) s.values t)
      (fun _ _ => False) (Fleet.registerCluster name request) s := by
  obtain ⟨c?, means, enabled⟩ := registrable
  have decided : Fleet.decideRegistration name request (s.values.get? (StoreKeys.cluster name)) =
      .write (Fleet.Renewed record) := by
    rw [Fleet.decideRegistration, check_of_isName valid]
    refine (Decision.byRecord_of_means means).trans ?_
    rw [Fleet.registration, enabled, fine]
    rfl
  exact Fleet.attains_registerCluster (i := i) (fun _ _ => rfl)
    (Decision.allows_of_write decided ⟨id, managementPassword, rootPassword, rfl⟩)

theorem runs_registerCluster_as {name : String} {request : ClusterRequest} {record : ClusterRecord}
    (valid : Names.isName name) (fine : request.validate = .ok record)
    (registrable : Fleet.Registrable (s.values.get? (StoreKeys.cluster name)))
    (id : Uuid) (managementPassword rootPassword : String) :
    ∃ t, Surroundings.Runs i (registerCluster name request).op.run s (.ok none) t ∧
      t.values.get? (StoreKeys.cluster name) = some ({ record with
        managementRole := Names.managementRole id, managementPassword, password := rootPassword } : ClusterRecord).encode ∧
      Still (Beyond name) s.values t :=
  runs_of_unkept (i := i) rfl (wp_lucky_registerCluster valid fine registrable id managementPassword rootPassword)

/-- A cluster can be registered where there is none that was deleted. -/
theorem runs_registerCluster {name : String} {request : ClusterRequest} {record : ClusterRecord}
    (valid : Names.isName name) (fine : request.validate = .ok record)
    (registrable : Fleet.Registrable (s.values.get? (StoreKeys.cluster name))) :
    ∃ t c, Surroundings.Runs i (registerCluster name request).op.run s (.ok none) t ∧
      Loads ClusterRecord.decode t.values (StoreKeys.cluster name) (some c) ∧ c.disabled = record.disabled ∧
      Still (Beyond name) s.values t := by
  obtain ⟨t, run, stored, still⟩ := runs_registerCluster_as (i := i) valid fine registrable 0 "" ""
  exact ⟨t, _, run, ⟨_, stored, ClusterRecord.decode_encode _⟩, rfl, still⟩

/-- An active cluster can be cloned to where there is none, and the passwords be any. -/
theorem runs_cloneCluster {source : String} (request : CloneRequest) {c : ClusterRecord} {port : UInt16}
    (valid : Names.isName source) (valid' : Names.isName request.target)
    (hosted : request.host.isEmpty = false) (cloned : Replicas.Source source request s.values c port)
    (free : s.values.get? (StoreKeys.cluster request.target) = none) (managementPassword rootPassword : String) :
    ∃ t, Surroundings.Runs i (cloneCluster source request).op.run s (.ok none) t ∧
      t.values.get? (StoreKeys.cluster request.target) = some ({ c with
        host := request.host, port := port, managementPassword, password := rootPassword } : ClusterRecord).encode := by
  have other : source ≠ request.target := by
    rintro rfl
    obtain ⟨text, found, -⟩ := cloned.loads
    cases free.symm.trans found
  have named : request.target.isEmpty = false := by
    refine Bool.eq_false_iff.2 fun empty => ?_
    rw [String.isEmpty_iff.1 empty] at valid'
    cases Names.not_isName_empty.symm.trans valid'
  have decided : Replicas.decideCloning source request s.values (s.values.get? (StoreKeys.cluster request.target)) =
      .write (Replicas.Rotated { c with host := request.host, port := port }) := by
    rw [Replicas.decideCloning, hosted, cloned.ported, if_neg other, free]
    refine (Decision.byRecord_of_means cloned.loads).trans ?_
    rw [Replicas.cloning, cloned.active, named, check_of_isName valid']
    rfl
  have attained := Replicas.attains_cloneCluster valid (i := i) (fun _ _ => rfl)
    (Decision.allows_of_write decided ⟨managementPassword, rootPassword, rfl⟩)
  obtain ⟨t, run, stored, -⟩ := runs_of_unkept (i := i) (rfl : (cloneCluster source request).op = _) attained
  exact ⟨t, run, stored⟩

/-- A database can be registered in an active cluster that has none of its name. -/
theorem wp_lucky_registerDatabase {cluster name : String} (request : DatabaseRequest) {c : ClusterRecord}
    (valid : Names.isName cluster) (valid' : Names.isName name)
    (stored : Loads ClusterRecord.decode s.values (StoreKeys.cluster cluster) (some c)) (active : c.disabled = false)
    (free : s.values.get? (StoreKeys.database cluster name) = none) :
    Op.wp (lucky i)
      (fun _ t => ∃ d, Loads DatabaseRecord.decode t.values (StoreKeys.database cluster name) (some d) ∧
        d.disabled = false ∧ Still (· ≠ StoreKeys.database cluster name) s.values t)
      (fun _ _ => False) (Fleet.registerDatabase cluster name request) s := by
  obtain ⟨owner, eligible⟩ := Fleet.exists_eligible name request.objectsOwner
  let d : DatabaseRecord := { cluster, database := name, objectsOwner := owner, disabled := false }
  have decided : Fleet.decideEnlisting cluster name request s.values (s.values.get? (StoreKeys.database cluster name)) =
      .write (Fleet.Owned cluster name request.objectsOwner) := by
    rw [Fleet.decideEnlisting, check_of_isName valid, check_of_isName valid', free]
    refine (Decision.byRecord_of_means stored).trans ?_
    rw [Fleet.enlisting, active]
    rfl
  have attained := Fleet.attains_registerDatabase (i := i) (fun _ _ => rfl)
    (Decision.allows_of_write decided ⟨owner, eligible, (rfl : _ = some d.encode)⟩)
  exact wp_mono attained (fun _ t written => ⟨d, ⟨_, written.1, d.decode_encode⟩, rfl, written.2⟩) fun _ _ => id

theorem runs_registerDatabase {cluster name : String} (request : DatabaseRequest) {c : ClusterRecord}
    (valid : Names.isName cluster) (valid' : Names.isName name)
    (stored : Loads ClusterRecord.decode s.values (StoreKeys.cluster cluster) (some c)) (active : c.disabled = false)
    (free : s.values.get? (StoreKeys.database cluster name) = none) :
    ∃ t d, Surroundings.Runs i (registerDatabase cluster name request).op.run s (.ok none) t ∧
      Loads DatabaseRecord.decode t.values (StoreKeys.database cluster name) (some d) ∧ d.disabled = false ∧
      Still (· ≠ StoreKeys.database cluster name) s.values t := by
  have does : (registerDatabase cluster name request).op = (Fleet.registerDatabase cluster name request).unkept := rfl
  obtain ⟨t, run, d, loads⟩ := runs_of_unkept (i := i) does
    (wp_lucky_registerDatabase request valid valid' stored active free)
  exact ⟨t, d, run, loads⟩

/-- The role that a request makes. -/
def requestedRole (limits : LeaseLimits) (request : RoleRequest) : RoleRecord where
  defaultTtl := (request.defaultTtl.getD limits.defaultTtl).secs
  maxTtl := (request.maxTtl.getD limits.maxTtl).secs
  creation := request.creation
  revocation := request.revocation

/-- A role can be written whose terms are not at odds. -/
theorem runs_writeRole (limits : LeaseLimits) {name : String} (request : RoleRequest) (valid : Names.isName name)
    (bounded : (!(request.maxTtl.getD limits.maxTtl).isZero &&
      request.maxTtl.getD limits.maxTtl < request.defaultTtl.getD limits.defaultTtl) = false) :
    ∃ t, Surroundings.Runs i (writeRole limits name request).op.run s (.ok none) t ∧
      Loads RoleRecord.decode t.values (StoreKeys.role name) (some (requestedRole limits request)) ∧
      Still (· ≠ StoreKeys.role name) s.values t := by
  have written : Op.wp (lucky i) (fun _ => Written (StoreKeys.role name) (· ≠ StoreKeys.role name) s.values
      (some (requestedRole limits request).encode)) (fun _ _ => False) (RoleTemplates.writeRole limits name request) s := by
    refine wp_passed (check_of_isName valid) ?_
    dsimp only
    rw [bounded]
    exact wp_lucky_write (wp_lucky_put (fun other => other rfl) fun _ _ => rfl) fun _ => closes_pure _
  obtain ⟨t, run, stored, still⟩ := runs_of_unkept (i := i) (rfl : (writeRole limits name request).op = _) written
  exact ⟨t, run, ⟨_, stored, RoleRecord.decode_encode _⟩, still⟩

section
variable {cluster name : String}

/-- An active cluster can be deleted. -/
theorem runs_deleteCluster {c : ClusterRecord}
    (stored : Loads ClusterRecord.decode s.values (StoreKeys.cluster cluster) (some c)) (active : c.disabled = false) :
    ∃ t, Surroundings.Runs i (deleteCluster cluster).op.run s (.ok none) t ∧
      t.values.get? (StoreKeys.cluster cluster) = some ({ c with disabled := true } : ClusterRecord).encode :=
  runs_disposing Fleet.disposes_deletion rfl (fun _ _ _ => wp_lucky_put (not_beyond_cluster cluster)) stored active

/-- An active database of an active cluster can be deleted. -/
theorem runs_deleteDatabase {c : ClusterRecord} {d : DatabaseRecord}
    (stored : Loads ClusterRecord.decode s.values (StoreKeys.cluster cluster) (some c)) (active : c.disabled = false)
    (loads : Loads DatabaseRecord.decode s.values (StoreKeys.database cluster name) (some d)) (active' : d.disabled = false) :
    ∃ t, Surroundings.Runs i (deleteDatabase cluster name).op.run s (.ok none) t ∧
      Loads DatabaseRecord.decode t.values (StoreKeys.database cluster name) (some { d with disabled := true }) := by
  have decided : Fleet.decideDelisting cluster name s.values (s.values.get? (StoreKeys.database cluster name)) =
      .write (· = some ({ d with disabled := true } : DatabaseRecord).encode) := by
    refine (Decision.byRecord_of_means stored).trans ?_
    rw [Fleet.delisting, active]
    refine (if_neg Bool.false_ne_true).trans ((Decision.byRecord_of_means loads).trans ?_)
    dsimp only
    rw [active']
    rfl
  have attained := Fleet.attains_deleteDatabase (i := i) (fun _ _ => rfl) (Decision.allows_of_write decided rfl)
  obtain ⟨t, run, left, -⟩ := runs_of_unkept (i := i) (rfl : (deleteDatabase cluster name).op = _) attained
  exact ⟨t, run, _, left, DatabaseRecord.decode_encode _⟩

/-- A deleted cluster can be purged. -/
theorem runs_purgeCluster {c : ClusterRecord}
    (stored : Loads ClusterRecord.decode s.values (StoreKeys.cluster cluster) (some c)) (deleted : c.disabled = true) :
    ∃ t, Surroundings.Runs i (purgeCluster cluster).op.run s (.ok none) t ∧
      t.values.get? (StoreKeys.cluster cluster) = none := by
  have spared : (!c.disabled) = false := by rw [deleted]; rfl
  exact runs_disposing Reclaim.disposes_purging rfl (fun _ _ _ => wp_lucky_delete (not_beyond_cluster cluster)) stored spared

/-- The record of a deleted database can be purged. -/
theorem runs_purgeDatabase {d : DatabaseRecord}
    (loads : Loads DatabaseRecord.decode s.values (StoreKeys.database cluster name) (some d)) (deleted : d.disabled = true) :
    ∃ t, Surroundings.Runs i (purgeDatabase cluster name).op.run s (.ok none) t ∧
      t.values.get? (StoreKeys.database cluster name) = none := by
  have purging : Op.wp (Surroundings.lucky i) (fun _ => Written (StoreKeys.database cluster name)
      (· ≠ StoreKeys.database cluster name) s.values none) (fun _ _ => False) (Reclaim.purgeDatabase cluster name) s := by
    refine (wp_bind ..).2 (wp_lucky_load loads fun t same => ?_)
    dsimp only
    rw [deleted]
    have still : Still (· ≠ StoreKeys.database cluster name) s.values t := Still.of_values (fun _ _ => rfl) same
    exact wp_lucky_write (wp_lucky_delete (fun differs => differs rfl) still) fun _ => Fleet.closes_flushed
  obtain ⟨t, run, gone, -⟩ := runs_of_unkept (i := i) (rfl : (purgeDatabase cluster name).op = _) purging
  exact ⟨t, run, gone⟩

end

end

end Command

/-! ## Credentials that can be had -/

section
open Surroundings (lucky)
variable {i : Nat} {s : Surroundings}

/-- What can come of an operation comes of it with the history before it. -/
theorem wp_lucky_grown {p : Op α} {ok : α → Surroundings → Prop} {fail : BrokerError → Surroundings → Prop}
    (h : Op.wp (lucky i) ok fail p s) : Op.wp (lucky i) (fun a t => ok a t ∧ s.history <:+ t.history) fail p s := by
  obtain ⟨result, t, run, ended⟩ := Program.wp_angelic_iff.1 h
  refine Program.wp_angelic_iff.2 ⟨result, t, run, ?_⟩
  cases result with
  | ok a => exact ⟨ended, Surroundings.history_grows run⟩
  | error e => exact ended

/-- The clock can show any instant, and what it has shown stays in the history. -/
theorem wp_lucky_now {f : Instant → Op α} {Q : α → Prop} (now : Instant)
    (rest : ∀ t, t.values = s.values →
      Op.wp (lucky i) (fun a u => u.values = t.values ∧ Q a) (fun _ _ => False) (f now) t) :
    Op.wp (lucky i) (fun a t => t.values = s.values ∧ Event.mk i .now now ∈ t.history ∧ Q a) (fun _ _ => False)
      (liftM Program.now >>= f) s := by
  refine (wp_bind_lift ..).2 (Surroundings.lucky_iff.2 ⟨now, trivial, ?_⟩)
  refine wp_mono (wp_lucky_grown (rest (s.after i .now now) rfl)) (fun _ t ended => ?_) fun _ _ => id
  exact ⟨ended.1.1, ended.2.subset List.mem_cons_self, ended.1.2⟩

namespace Credentials

variable {c : ClusterRecord} {d : DatabaseRecord} {r : RoleRecord}

/-- A credential can be issued for an active database, whatever the time and whatever UUID is drawn. -/
theorem wp_lucky_issueCredential_drawing (settings : Settings) {cluster name role : String} (displayName : String)
    (id : Uuid) (now : Instant)
    (stored : Loads ClusterRecord.decode s.values (StoreKeys.cluster cluster) (some c)) (active : c.disabled = false)
    (stored' : Loads DatabaseRecord.decode s.values (StoreKeys.database cluster name) (some d))
    (active' : d.disabled = false) (pattern : Loads RoleRecord.decode s.values (StoreKeys.role role) (some r)) :
    Op.wp (lucky i)
      (fun credential t => t.values = s.values ∧ Event.mk i .now now ∈ t.history ∧
        credential.username = Names.login displayName id)
      (fun _ _ => False) (issueCredential settings cluster name role displayName) s := by
  refine wp_lucky_load stored fun t same => ?_
  dsimp only
  rw [active]
  replace stored' : Loads DatabaseRecord.decode t.values (StoreKeys.database cluster name) (some d) := by
    rwa [Loads, same]
  refine wp_lucky_load stored' fun u same' => ?_
  replace same := same'.trans same
  dsimp only
  rw [active']
  replace pattern : Loads RoleRecord.decode u.values (StoreKeys.role role) (some r) := by rwa [Loads, same]
  refine wp_lucky_load pattern fun v same' => ?_
  rw [← same, ← same']
  refine (wp_bind_lift ..).2 (Surroundings.lucky_iff.2 ⟨id, trivial, ?_⟩)
  refine (wp_bind_lift ..).2 (Surroundings.lucky_iff.2 ⟨"", trivial, ?_⟩)
  refine wp_lucky_now now fun t same'' => ?_
  have registered : Registered t.values cluster := by
    refine ⟨c, ?_⟩
    rw [same'']
    show Loads _ v.values _ _
    rwa [Loads, same', same]
  refine wp_lucky_work (Connections.works_startManagement labour_lucky.toil (works_get_lucky registered)) rfl fun t w same => ?_
  refine wp_seq_lift (Fleet.works_runEach labour_lucky.toil _ w same) fun ran x ended => ?_
  obtain ⟨same, fine⟩ := ended
  cases ran with
  | error e => exact (fine e rfl).elim
  | ok done =>
    refine wp_lucky_work (works_ofSql (labour_lucky.toil.commit t)) same fun _ y same => ?_
    exact wp_lucky_work (works_lift labour_lucky (Program.only_call rfl)) same fun _ z same => ⟨same, rfl⟩

theorem wp_lucky_issueCredential (settings : Settings) {cluster name role : String} (displayName : String) (now : Instant)
    (stored : Loads ClusterRecord.decode s.values (StoreKeys.cluster cluster) (some c)) (active : c.disabled = false)
    (stored' : Loads DatabaseRecord.decode s.values (StoreKeys.database cluster name) (some d))
    (active' : d.disabled = false) (pattern : Loads RoleRecord.decode s.values (StoreKeys.role role) (some r)) :
    Op.wp (lucky i) (fun _ t => t.values = s.values ∧ Event.mk i .now now ∈ t.history) (fun _ _ => False)
      (issueCredential settings cluster name role displayName) s :=
  wp_mono (wp_lucky_issueCredential_drawing settings displayName 0 now stored active stored' active' pattern)
    (fun _ _ ended => ⟨ended.1, ended.2.1⟩) fun _ _ => id

/-- A lease of an active database can be renewed, whatever the time. -/
theorem wp_lucky_renewCredential (settings : Settings) {secret : LeaseSecret} (increment : Span) (issued now : Instant)
    (pattern : Loads RoleRecord.decode s.values (StoreKeys.role secret.role) (some r))
    (stored : Loads ClusterRecord.decode s.values (StoreKeys.cluster secret.cluster) (some c)) (active : c.disabled = false)
    (stored' : Loads DatabaseRecord.decode s.values (StoreKeys.database secret.cluster secret.database) (some d))
    (active' : d.disabled = false) :
    Op.wp (lucky i) (fun _ t => t.values = s.values ∧ Event.mk i .now now ∈ t.history) (fun _ _ => False)
      (renewCredential settings secret increment issued) s := by
  refine wp_lucky_load pattern fun t same => ?_
  replace stored : Loads ClusterRecord.decode t.values (StoreKeys.cluster secret.cluster) (some c) := by
    rwa [Loads, same]
  refine wp_lucky_load stored fun u same' => ?_
  rw [← same] at stored'
  dsimp only
  rw [active]
  replace stored' : Loads DatabaseRecord.decode u.values (StoreKeys.database secret.cluster secret.database) (some d) := by
    rwa [Loads, same']
  refine wp_lucky_load stored' fun v same'' => ?_
  dsimp only
  rw [active', ← same, ← same', ← same'']
  refine wp_mono (wp_lucky_now (Q := fun _ => True) now fun t ticked => ?_) (fun _ _ ended => ⟨ended.1, ended.2.1⟩)
    fun _ _ => id
  have registered : Registered t.values secret.cluster := by
    refine ⟨c, ?_⟩
    rwa [Loads, ticked, same'', same']
  generalize (TermRequest.grant _ _) = grant
  cases grant.value.isZero with
  | true => exact ⟨rfl, trivial⟩
  | false =>
    refine wp_lucky_work (Connections.works_onManagement (works_get_lucky registered) fun c => labour_lucky.toil.execute c _) rfl
      fun _ y same => ?_
    exact wp_lucky_work (works_lift labour_lucky (Program.only_call rfl)) same fun _ z same => ⟨same, trivial⟩

end Credentials

end

/-- A credential can be issued for an active database. -/
theorem Command.runs_issueCredential {i : Nat} {s : Surroundings} (settings : Settings) {cluster name role : String}
    (displayName : String) {c : ClusterRecord} {d : DatabaseRecord} {r : RoleRecord}
    (stored : Loads ClusterRecord.decode s.values (StoreKeys.cluster cluster) (some c)) (active : c.disabled = false)
    (stored' : Loads DatabaseRecord.decode s.values (StoreKeys.database cluster name) (some d))
    (active' : d.disabled = false) (pattern : Loads RoleRecord.decode s.values (StoreKeys.role role) (some r)) :
    ∃ t credential, Surroundings.Runs i (issueCredential settings cluster name role displayName).op.run s
      (.ok (some credential)) t ∧ t.values = s.values := by
  have issued := Credentials.wp_lucky_issueCredential (i := i) settings displayName (.ofSecs 0) stored active stored' active'
    pattern
  have ends : Op.wp (Surroundings.lucky i) (fun a t => (∃ credential, a = some credential) ∧ t.values = s.values)
      (fun _ _ => False) (issueCredential settings cluster name role displayName).op s :=
    wp_seq issued (fun credential _ ended => ⟨⟨credential, rfl⟩, ended.1⟩) fun _ _ => id
  obtain ⟨a, t, run, ⟨credential, rfl⟩, same⟩ := runs_of_lucky ends
  exact ⟨t, credential, run, same⟩

end LeaseBroker
