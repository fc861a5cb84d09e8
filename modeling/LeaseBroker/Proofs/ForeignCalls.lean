import LeaseBroker.Proofs.HostRequests
import LeaseBroker.Proofs.Listings

/-!
Calls that have nothing to do with a cluster: they neither read nor write its
keys, list nothing above them, and look up, keep and evict no connection of it
(`Call.Foreign`). All that is called by names is apart from a cluster with
another name, however alike the two names begin, since keys tell their names.
So a command about other clusters makes only such calls (`Command.foreign_op`).
-/
namespace LeaseBroker

open Op

/-- The key is that of a cluster, or of one of its databases. -/
def Belongs (cluster key : String) : Prop :=
  key = StoreKeys.cluster cluster ∨ ∃ name, key = StoreKeys.database cluster name

/-- A call that has nothing to do with what is stored and cached for a cluster. -/
def Call.Foreign (cluster : String) : Call → Prop
  | fetch key => ¬Belongs cluster key
  | put key _ => ¬Belongs cluster key
  | delete key => ¬Belongs cluster key
  | list above => ∀ key, Belongs cluster key → MemoryStore.child? above key = none
  | find key => key.cluster ≠ cluster
  | keep key _ _ => key.cluster ≠ cluster
  | evict (.cluster name) => name ≠ cluster
  | evict (.database name _) => name ≠ cluster
  | evict .everything => False
  | metrics => False
  | _ => True

/-- A name of another cluster. -/
structure Apart (cluster name : String) : Prop where
  named : Names.isName name
  other : name ≠ cluster

variable {α β : Type} {c name : String}

theorem Call.foreign_of_toServer {call : Call} (server : call.toServer) : call.Foreign c := by
  cases call <;> first | (cases server; done) | trivial

/-! ## Keys -/

theorem Apart.not_belongs_cluster (apart : Apart c name) : ¬Belongs c (StoreKeys.cluster name) := by
  rintro (same | ⟨d, same⟩)
  · exact apart.other (StoreKeys.cluster_injective same)
  · exact StoreKeys.cluster_ne_database (Names.slash_not_mem apart.named) c d same

theorem not_belongs_role (name : String) : ¬Belongs c (StoreKeys.role name) := by
  rintro (same | ⟨d, same⟩)
  · exact StoreKeys.role_ne_cluster name c same
  · exact StoreKeys.role_ne_database name c d same

theorem not_belongs_tagSet (id : String) : ¬Belongs c (StoreKeys.tagSet id) := by
  rintro (same | ⟨d, same⟩)
  · exact StoreKeys.tagSet_ne_cluster id c same
  · exact StoreKeys.tagSet_ne_database id c d same

/-- A listing is foreign where no key of the cluster continues the text it is above. -/
theorem foreign_list {above : String} (h : ∀ rest, ¬Belongs c (above ++ rest)) : (Call.list above).Foreign c := by
  intro key own
  by_contra reached
  obtain ⟨child, reached⟩ := Option.ne_none_iff_exists'.1 reached
  obtain ⟨rest, split, -⟩ := MemoryStore.child?_eq_some_iff.1 reached
  have whole : key = above ++ String.ofList rest := String.toList_injective (by simp [split])
  exact h (String.ofList rest) (whole ▸ own)

theorem foreign_list_roles : (Call.list StoreKeys.roles).Foreign c := foreign_list fun rest => not_belongs_role rest

theorem foreign_list_tagSets (above : String) : (Call.list (StoreKeys.tagSet above)).Foreign c := by
  refine foreign_list fun rest => ?_
  have whole : StoreKeys.tagSet above ++ rest = StoreKeys.tagSet (above ++ rest) := by
    simp only [StoreKeys.tagSet, String.append_assoc]
  rw [whole]
  exact not_belongs_tagSet (above ++ rest)

section
variable (named : Names.isName c)
include named

theorem Apart.not_belongs_database (apart : Apart c name) (d : String) : ¬Belongs c (StoreKeys.database name d) := by
  rintro (same | ⟨d', same⟩)
  · exact StoreKeys.cluster_ne_database (Names.slash_not_mem named) name d same.symm
  · have names := StoreKeys.database_injective_of_bare (Names.slash_not_mem named) (Names.slash_not_mem apart.named) same
    exact apart.other names.1

theorem Apart.foreign_list_databases (apart : Apart c name) : (Call.list (StoreKeys.databases name)).Foreign c :=
  foreign_list fun rest => apart.not_belongs_database named rest

end

/-! ## Parts of operations -/

/-- Every call of `p` is foreign to the cluster. -/
abbrev Op.Foreign (c : String) (p : Op α) : Prop := Op.Only (Call.Foreign c) p

theorem foreign_load {decode : String → Except String α} {key : String} (h : ¬Belongs c key) :
    Op.Foreign c (loadRecord decode key) := calls_loadRecord h

theorem foreign_loaded {decode : String → Except String α} {key : String} {f : Option α → Op β} (h : ¬Belongs c key)
    (missing : Op.Foreign c (f none)) (found : ∀ a, Op.Foreign c (f (some a))) :
    Op.Foreign c (loadRecord decode key >>= f) := only_found (foreign_load h) missing found

theorem foreign_put {key text : String} (h : ¬Belongs c key) : Op.Foreign c (ofStore (Program.put key text)) :=
  only_ofStore (Program.only_call h)

theorem foreign_delete {key : String} (h : ¬Belongs c key) : Op.Foreign c (ofStore (Program.delete key)) :=
  only_ofStore (Program.only_call h)

theorem foreign_children {above : String} (h : (Call.list above).Foreign c) :
    Op.Foreign c (do return StoreKeys.leaves (← ofStore (Program.list above)) : Op (List String)) :=
  only_bind (only_ofStore (Program.only_call h)) fun _ => only_pure _

theorem foreign_tally {what : Tally} : Op.Foreign c (liftM (Program.tally what)) := only_lift (Program.only_call trivial)

namespace Connections

theorem foreign_closeQuietly {conn : Connection} : Program.Only (Call.Foreign c) (closeQuietly conn) :=
  calls_closeQuietly trivial

theorem foreign_openUncached {record : ClusterRecord} {kind : LoginKind} {database : String} :
    Op.Foreign c (openUncached record kind database) := calls_openUncached (fun _ => trivial) trivial

theorem foreign_invalidate {what : Eviction} (h : (Call.evict what).Foreign c) :
    Program.Only (Call.Foreign c) (invalidate what) := calls_invalidate h trivial fun _ => trivial

theorem foreign_get {key : ConnectionKey} (apart : Apart c key.cluster) : Op.Foreign c (get key) :=
  calls_getWithin apart.other apart.not_belongs_cluster (fun _ => trivial) trivial (fun _ _ => apart.other)
    (fun _ => trivial) attempts

theorem foreign_onManagement {cluster database : String} (apart : Apart c cluster)
    {act : Connection → Program (Except SqlError α)} (h : ∀ conn, Program.Only (Call.Foreign c) (act conn)) :
    Op.Foreign c (onManagement cluster database act) := calls_onManagement (foreign_get apart) h

theorem foreign_startManagement {cluster database : String} (apart : Apart c cluster) :
    Op.Foreign c (startManagement cluster database) := foreign_onManagement apart fun _ => Program.only_call trivial

end Connections

/-! ## Operations -/

namespace Fleet

theorem foreign_flushed {what : Eviction} {outcome : Outcome Unit} (h : (Call.evict what).Foreign c) :
    Op.Foreign c (flushed what outcome) := by
  refine only_bind (only_lift (Connections.foreign_invalidate h)) fun closed => ?_
  cases closed <;> exact only_pure _

theorem foreign_registerCluster (apart : Apart c name) {request : ClusterRequest} :
    Op.Foreign c (registerCluster name request) := by
  have enrolling : Op.Foreign c (enrol name request) := by
    refine only_bind (only_ofRefusal _) fun record => only_bind Connections.foreign_openUncached fun conn => ?_
    have provisioning : Op.Foreign c (provisionCluster conn record.username) :=
      calls_provisionCluster (fun _ => trivial) trivial trivial
    refine only_bind (only_andAlways provisioning Connections.foreign_closeQuietly) fun logins => ?_
    refine only_bind (foreign_put apart.not_belongs_cluster) fun _ => ?_
    refine only_bind (only_lift (Connections.foreign_invalidate apart.other)) fun closed => ?_
    cases closed <;> exact only_pure _
  refine only_bind (only_ofRefusal _) fun _ => ?_
  exact foreign_loaded apart.not_belongs_cluster enrolling fun record => only_unless enrolling

theorem foreign_readCluster (apart : Apart c name) : Op.Foreign c (readCluster name) :=
  foreign_loaded apart.not_belongs_cluster (only_refuse _) fun _ => only_unless (only_pure _)

theorem foreign_deleteCluster (apart : Apart c name) : Op.Foreign c (deleteCluster name) :=
  only_bind (foreign_readCluster apart) fun _ =>
    only_bind (foreign_put apart.not_belongs_cluster) fun _ => foreign_flushed apart.other

section
variable (named : Names.isName c) {cluster : String} (apart : Apart c cluster)
include named apart

theorem foreign_registerDatabase {request : DatabaseRequest} : Op.Foreign c (registerDatabase cluster name request) := by
  have storing (owner : String) : Op.Foreign c (enter cluster name owner) :=
    only_bind (foreign_put (apart.not_belongs_database named name)) fun _ => only_pure _
  refine only_bind (only_ofRefusal _) fun _ => only_bind (only_ofRefusal _) fun _ => ?_
  refine foreign_loaded apart.not_belongs_cluster (only_refuse _) fun record => only_unless ?_
  refine foreign_loaded (apart.not_belongs_database named name) ?_ fun d => only_refused
  refine only_bind (only_lift (only_chooseOwner trivial)) fun owner => ?_
  dsimp only
  cases request.provision with
  | false => exact storing owner
  | true =>
    refine only_bind (calls_provisionDatabase (fun key same => ?_) fun _ => Call.foreign_of_toServer) fun _ => storing owner
    exact Connections.foreign_get (same ▸ apart)

theorem foreign_readDatabase : Op.Foreign c (readDatabase cluster name) := by
  refine foreign_loaded apart.not_belongs_cluster (only_refuse _) fun record => only_unless ?_
  exact foreign_loaded (apart.not_belongs_database named name) (only_refuse _) fun _ => only_unless (only_pure _)

theorem foreign_deleteDatabase : Op.Foreign c (deleteDatabase cluster name) := by
  have key := apart.not_belongs_database named name
  refine foreign_loaded apart.not_belongs_cluster (only_refuse _) fun record => only_unless ?_
  refine foreign_loaded key (only_refuse _) fun d => only_unless ?_
  exact only_bind (foreign_put key) fun _ => foreign_flushed apart.other

end

end Fleet

namespace Reclaim

theorem foreign_readCluster (apart : Apart c name) : Op.Foreign c (readCluster name) :=
  foreign_loaded apart.not_belongs_cluster (only_refuse _) fun _ => only_unless (only_pure _)

theorem foreign_purgeCluster (apart : Apart c name) : Op.Foreign c (purgeCluster name) :=
  only_bind (foreign_readCluster apart) fun _ =>
    only_bind (foreign_delete apart.not_belongs_cluster) fun _ => Fleet.foreign_flushed apart.other

section
variable (named : Names.isName c) {cluster : String} (apart : Apart c cluster)
include named apart

theorem foreign_readDatabase : Op.Foreign c (readDatabase cluster name) :=
  foreign_loaded (apart.not_belongs_database named name) (only_refuse _) fun _ => only_unless (only_pure _)

theorem foreign_purgeDatabase : Op.Foreign c (purgeDatabase cluster name) :=
  only_bind (foreign_readDatabase named apart) fun _ =>
    only_bind (foreign_delete (apart.not_belongs_database named name)) fun _ => Fleet.foreign_flushed apart.other

theorem foreign_listDatabases : Op.Foreign c (listDatabases cluster) := by
  refine only_bind (foreign_children (apart.foreign_list_databases named)) fun names => ?_
  induction names with
  | nil => exact only_pure _
  | cons name names ih =>
    exact only_bind (foreign_load (apart.not_belongs_database named name)) fun _ => only_bind ih fun _ => only_pure _

end

end Reclaim

theorem Replicas.foreign_cloneCluster (named : Names.isName c) {source : String} {request : CloneRequest}
    (apart : Apart c source) (apart' : Apart c request.target) : Op.Foreign c (cloneCluster source request) := by
  refine only_bind (calls_checkClone apart.not_belongs_cluster apart'.not_belongs_cluster) fun record => ?_
  refine only_bind (calls_tryManagement (fun _ => trivial) trivial fun _ => trivial) fun warnings => ?_
  refine only_bind (only_inContext Connections.foreign_openUncached) fun root => ?_
  have rotating : Op.Foreign c (rotateBoth root record) := calls_rotateBoth (fun _ => trivial) trivial
  refine only_bind (only_andAlways rotating Connections.foreign_closeQuietly) fun passwords => ?_
  refine only_bind (only_inContext (foreign_put apart'.not_belongs_cluster)) fun _ => ?_
  have copying : Program.Only (Call.Foreign c) (copyDatabases source request.target request.inheritDeleted) :=
    calls_copyDatabases (apart.foreign_list_databases named) (fun d => apart.not_belongs_database named d)
      (fun d _ => apart'.not_belongs_database named d) request.inheritDeleted
  exact only_bind (only_lift copying) fun _ => only_pure _

namespace RoleTemplates

theorem foreign_writeRole {limits : LeaseLimits} {request : RoleRequest} : Op.Foreign c (writeRole limits name request) :=
  only_bind (only_ofRefusal _) fun _ =>
    only_unless (only_bind (foreign_put (not_belongs_role name)) fun _ => only_pure _)

theorem foreign_readRole : Op.Foreign c (readRole name) :=
  foreign_loaded (not_belongs_role name) (only_refuse _) fun r => only_pure r

end RoleTemplates

namespace TagIndex

theorem foreign_write (named : Names.isName c) {cluster : String} (apart : Apart c cluster) {database : Option String}
    {tags : Table String} : Op.Foreign c (write cluster database tags) := by
  have storing : Op.Foreign c (enter cluster database tags) :=
    only_bind (only_ofRefusal _) fun _ => only_bind (foreign_put (not_belongs_tagSet _)) fun _ => only_pure _
  refine foreign_loaded apart.not_belongs_cluster (only_refuse _) fun record => ?_
  cases database with
  | none => exact storing
  | some name => exact foreign_loaded (apart.not_belongs_database named name) only_refused fun d => storing

theorem foreign_erase {id : String} : Op.Foreign c (erase id) := by
  unfold erase
  exact only_unless (foreign_delete (not_belongs_tagSet id))

theorem foreign_load {target : TagTarget} : Op.Foreign c (load target) := by
  refine only_bind (only_ofStore (Program.only_call (foreign_list_tagSets _))) fun entries => ?_
  generalize (StoreKeys.leaves entries).map _ = ids
  induction ids with
  | nil => exact only_pure _
  | cons id ids ih =>
    exact only_bind (LeaseBroker.foreign_load (not_belongs_tagSet id)) fun _ => only_bind ih fun _ => only_pure _

theorem foreign_lookup {target : TagTarget} {query : Table String} : Op.Foreign c (lookup target query) :=
  only_bind (only_ofRefusal _) fun _ => only_bind foreign_load fun _ => only_pure _

theorem foreign_listing : Op.Foreign c listing :=
  only_bind foreign_load fun _ => only_bind foreign_load fun _ => only_pure _

end TagIndex

namespace Credentials

section
variable (named : Names.isName c)
include named

theorem foreign_issueCredential {settings : Settings} {cluster role displayName : String} (apart : Apart c cluster) :
    Op.Foreign c (issueCredential settings cluster name role displayName) := by
  refine foreign_loaded apart.not_belongs_cluster (only_refuse _) fun record => only_unless ?_
  refine foreign_loaded (apart.not_belongs_database named name) (only_refuse _) fun d => only_unless ?_
  refine foreign_loaded (not_belongs_role role) (only_refuse _) fun r => ?_
  refine only_bind (only_lift (Program.only_call trivial)) fun id => ?_
  refine only_bind (only_lift (Program.only_call trivial)) fun password => ?_
  refine only_bind (only_lift (Program.only_call trivial)) fun now => ?_
  refine only_bind (Connections.foreign_startManagement apart) fun t => ?_
  refine only_bind (only_lift (Fleet.calls_runEach (fun _ => trivial) _)) fun ran => ?_
  cases ran with
  | error e => exact only_bind (only_lift (Fleet.calls_rollbackQuietly trivial)) fun _ => only_throw _
  | ok done =>
    refine only_bind (only_ofSql (Program.only_call trivial)) fun _ => ?_
    exact only_bind foreign_tally fun _ => only_pure _

variable {secret : LeaseSecret} (apart : Apart c secret.cluster)
include apart

theorem foreign_renewCredential {settings : Settings} {increment : Span} {issued : Instant} :
    Op.Foreign c (renewCredential settings secret increment issued) := by
  refine foreign_loaded (not_belongs_role _) (only_refuse _) fun r => ?_
  refine foreign_loaded apart.not_belongs_cluster (only_refuse _) fun record => only_unless ?_
  refine foreign_loaded (apart.not_belongs_database named _) (only_refuse _) fun d => only_unless ?_
  refine only_bind (only_lift (Program.only_call trivial)) fun now => ?_
  dsimp only
  generalize TermRequest.grant _ _ = grant
  cases grant.value.isZero with
  | true => exact only_pure _
  | false =>
    have extending (validUntil : Instant) : Op.Foreign c (extend secret validUntil) :=
      Connections.foreign_onManagement apart fun _ => Program.only_call trivial
    exact only_bind (extending _) fun _ => only_bind foreign_tally fun _ => only_pure _

theorem foreign_revokeCredential : Op.Foreign c (revokeCredential secret) := by
  have planning : Op.Foreign c (revocationPlan secret.role) :=
    foreign_loaded (not_belongs_role _) (only_pure _) fun _ => only_pure _
  have revoking {t : Transaction} {bindings : Bindings} {templates : List String} :
      Op.Foreign c (revokeWithin t bindings templates) := calls_revokeWithin (fun _ => trivial) trivial
  refine only_bind planning fun plan => foreign_loaded apart.not_belongs_cluster (only_refuse _) fun record => ?_
  refine foreign_loaded (apart.not_belongs_database named _) (only_refuse _) fun d => ?_
  have counting (warnings : List Warning) : Op.Foreign c (countRevoked plan.warnings warnings) :=
    only_bind foreign_tally fun _ => only_pure _
  dsimp only
  cases record.disabled || d.disabled with
  | true =>
    refine only_bind (only_bind Connections.foreign_openUncached fun conn => ?_) counting
    refine only_andAlways (only_bind (only_ofSql (Program.only_call trivial)) fun t => revoking) ?_
    exact Connections.foreign_closeQuietly
  | false =>
    exact only_bind (Connections.foreign_startManagement apart) fun t => only_bind revoking counting

end

end Credentials

/-! ## Commands -/

/-- The clusters that an inquiry names. -/
def Inquiry.about : Inquiry → List String
  | cluster name => [name]
  | databases name => [name]
  | database name _ => [name]
  | deletedCluster name => [name]
  | deletedDatabases name => [name]
  | deletedDatabase name _ => [name]
  | _ => []

/-- An inquiry that is about no cluster but about all there are. -/
def Inquiry.Surveys : Inquiry → Prop
  | metrics | clusters | deletedClusters => True
  | _ => False

namespace Command

/-- The clusters that a command names. -/
def about : Command → List String
  | registerCluster name _ => [name]
  | deleteCluster name => [name]
  | purgeCluster name => [name]
  | cloneCluster source request => [source, request.target]
  | registerDatabase name _ _ => [name]
  | deleteDatabase name _ => [name]
  | purgeDatabase name _ => [name]
  | writeTags name _ _ => [name]
  | issueCredential _ name _ _ _ => [name]
  | renewCredential _ secret _ _ => [secret.cluster]
  | revokeCredential secret => [secret.cluster]
  | inquire inquiry => inquiry.about
  | _ => []

/-- A command that is about no cluster but about all there are. -/
def Surveys : Command → Prop
  | inquire inquiry => inquiry.Surveys
  | _ => False

end Command

theorem foreign_unkept {p : Op α} (h : Op.Foreign c p) : Op.Foreign c p.unkept := only_bind h fun _ => only_pure _

theorem Inquiry.foreign_op {inquiry : Inquiry} (named : Names.isName c) (apart : ∀ n ∈ inquiry.about, Apart c n)
    (single : ¬inquiry.Surveys) : Op.Foreign c inquiry.op := by
  cases inquiry with
  | metrics => exact absurd trivial single
  | clusters => exact absurd trivial single
  | cluster name => exact foreign_unkept (Fleet.foreign_readCluster (apart name (by simp [about])))
  | databases cluster =>
    exact foreign_unkept (foreign_children ((apart cluster (by simp [about])).foreign_list_databases named))
  | database cluster name => exact foreign_unkept (Fleet.foreign_readDatabase named (apart cluster (by simp [about])))
  | deletedClusters => exact absurd trivial single
  | deletedCluster name => exact foreign_unkept (Reclaim.foreign_readCluster (apart name (by simp [about])))
  | deletedDatabases cluster =>
    exact foreign_unkept (Reclaim.foreign_listDatabases named (apart cluster (by simp [about])))
  | deletedDatabase cluster name =>
    exact foreign_unkept (Reclaim.foreign_readDatabase named (apart cluster (by simp [about])))
  | roles => exact foreign_unkept (foreign_children foreign_list_roles)
  | role name => exact foreign_unkept RoleTemplates.foreign_readRole
  | tagged target query => exact foreign_unkept TagIndex.foreign_lookup
  | tags => exact foreign_unkept TagIndex.foreign_listing

/-- A command that names only other clusters has nothing to do with this one, unless it is about all there are. -/
theorem Command.foreign_op {command : Command} (named : Names.isName c) (apart : ∀ n ∈ command.about, Apart c n)
    (single : ¬command.Surveys) (running : command ≠ .shutDown) : Op.Foreign c command.op := by
  cases command with
  | registerCluster name request => exact foreign_unkept (Fleet.foreign_registerCluster (apart name (by simp [about])))
  | deleteCluster name => exact foreign_unkept (Fleet.foreign_deleteCluster (apart name (by simp [about])))
  | purgeCluster name => exact foreign_unkept (Reclaim.foreign_purgeCluster (apart name (by simp [about])))
  | cloneCluster source request =>
    have first := apart source (by simp [about])
    have second := apart request.target (by simp [about])
    exact foreign_unkept (Replicas.foreign_cloneCluster named first second)
  | registerDatabase cluster name request =>
    exact foreign_unkept (Fleet.foreign_registerDatabase named (apart cluster (by simp [about])))
  | deleteDatabase cluster name =>
    exact foreign_unkept (Fleet.foreign_deleteDatabase named (apart cluster (by simp [about])))
  | purgeDatabase cluster name =>
    exact foreign_unkept (Reclaim.foreign_purgeDatabase named (apart cluster (by simp [about])))
  | writeRole limits name request => exact foreign_unkept RoleTemplates.foreign_writeRole
  | deleteRole name => exact foreign_unkept (foreign_delete (not_belongs_role name))
  | writeTags cluster database tags =>
    exact foreign_unkept (TagIndex.foreign_write named (apart cluster (by simp [about])))
  | eraseTags id => exact foreign_unkept TagIndex.foreign_erase
  | issueCredential settings cluster database role displayName =>
    exact only_bind (Credentials.foreign_issueCredential named (apart cluster (by simp [about]))) fun _ => only_pure _
  | renewCredential settings secret increment issued =>
    exact foreign_unkept (Credentials.foreign_renewCredential named (apart secret.cluster (by simp [about])))
  | revokeCredential secret =>
    exact foreign_unkept (Credentials.foreign_revokeCredential named (apart secret.cluster (by simp [about])))
  | inquire inquiry => exact inquiry.foreign_op named apart single
  | shutDown => exact absurd rfl running

end LeaseBroker
