import LeaseBroker.Proofs.Sessions

/-!
Which connections a command uses, and which records of clusters it reads. A
program has a connection from a server that has just opened it, or from the
cache; it tells servers nothing over any other, caches none but those it opened,
and all that under keys of its own (`Scope`). What follows for the time between
two commands is said once, for all of them (`Command.attended`).
-/
namespace LeaseBroker

open Op
open Program (Demands Monotone)

variable {α β : Type}

/-- The connection over which a call says something to a server. -/
def Call.over? : Call → Option Connection
  | execute c _ | start c => some c
  | run t _ | commit t | rollback t => some t.connection
  | _ => none

theorem Call.over?_of_tends (c : Call) (h : c.tends) : c.over? = none := by cases c <;> first | rfl | cases h

/-- The clusters of which a program may read the record, and the keys under which it may cache connections. -/
structure Scope where
  reads : String → Prop
  keeps : ConnectionKey → Prop

namespace Scope

/-- The program reads nothing about clusters and caches nothing. -/
def nothing : Scope := ⟨fun _ => False, fun _ => False⟩

/-- The program may read the records of these clusters and caches nothing. -/
def clusters (reads : String → Prop) : Scope := ⟨reads, fun _ => False⟩

/-- The program deals with one database of one cluster. -/
def database (cluster name : String) : Scope :=
  ⟨(· = cluster), fun key => key.cluster = cluster ∧ ∀ d, key.database = some d → d = name⟩

/-- A call within the scope, over a connection that is among `own`. -/
def Admits (scope : Scope) (own : Connection → Prop) : Call → Prop
  | .fetch key => ∀ name, Names.isName name → key = StoreKeys.cluster name → scope.reads name
  | .keep key _ _ => scope.keeps key
  | c => ∀ conn, c.over? = some conn → own conn

section
variable {scope : Scope} {own : Connection → Prop}

theorem admits_of_tends (c : Call) (h : c.tends) : scope.Admits own c := by
  cases c <;> first | (cases h; done) | nofun

theorem admits_cluster {name : String} (reads : scope.reads name) : scope.Admits own (.fetch (StoreKeys.cluster name)) := by
  intro other _ same
  exact StoreKeys.cluster_injective same ▸ reads

theorem admits_database (cluster name : String) : scope.Admits own (.fetch (StoreKeys.database cluster name)) := by
  intro other named same
  exact absurd same.symm (StoreKeys.cluster_ne_database (Names.slash_not_mem named) cluster name)

theorem admits_role (name : String) : scope.Admits own (.fetch (StoreKeys.role name)) :=
  fun _ _ same => absurd same (StoreKeys.role_ne_cluster _ _)

/-- A program that may read everything may make any call that is quiet. -/
theorem admits_of_quiet {reads : String → Prop} (all : ∀ name, reads name) (c : Call) (h : c.quiet) :
    (clusters reads).Admits own c := by
  cases c <;> first | (cases h; done) | exact fun _ _ _ => all _ | nofun

end

end Scope

theorem Scope.keeps_management {cluster name : String} :
    (Scope.database cluster name).keeps ⟨.management, cluster, some name⟩ := ⟨rfl, fun _ same => (Option.some.inj same).symm⟩

/-- What an answer tells of the connection in it. -/
def Call.Told (new own : Connection → Prop) : (c : Call) → c.Answer → Prop
  | connect _, .ok c => new c
  | find _, .cached c => own c
  | keep .., .present c => own c
  | start c, .ok t => t.connection = c
  | _, _ => True

/-- For a program that stays within a scope, with connections of which only some are known. -/
def attending (scope : Scope) (new own : Connection → Prop) : Demands Unit := fun c Q _ =>
  scope.Admits own c ∧ (∀ key g conn, c = .keep key g conn → new conn) ∧ ∀ r, c.Told new own r → Q r ()

section
variable {scope : Scope} {new own : Connection → Prop}

instance : Monotone (attending scope new own) where
  mono weaker h := ⟨h.1, h.2.1, fun r told => weaker r () (h.2.2 r told)⟩

/-- `p` stays within its scope. -/
abbrev Op.Attends (scope : Scope) (new own : Connection → Prop) (p : Op α) : Prop :=
  Op.Keeps (attending scope new own) (fun _ => True) p

/-- A call of a program that caches nothing. -/
def Scope.Passes (scope : Scope) (own : Connection → Prop) (c : Call) : Prop := !c.keeps ∧ scope.Admits own c

theorem Scope.passes_of_tends (c : Call) (h : c.tends) : scope.Passes own c :=
  ⟨c.not_keeps_of_works (c.works_of_tends h), Scope.admits_of_tends c h⟩

theorem Program.attends_of_only {p : Program α} (h : Program.Only (scope.Passes own) p) :
    Program.wp (attending scope new own) (fun _ _ => True) p () := by
  refine Program.wp_of_only (I := fun _ => True) (fun c K _ passes _ next => ?_) h trivial
  refine ⟨passes.2, ?_, fun r _ => next r () trivial⟩
  rintro key g conn rfl
  cases passes.1

theorem attends_of_only {p : Op α} (h : Op.Only (scope.Passes own) p) : Op.Attends scope new own p := by
  intro s _
  have attended : Op.wp (attending scope new own) (fun _ _ => True) (fun _ _ => True) p s :=
    wp_either.2 (Program.attends_of_only h)
  exact wp_mono attended (fun _ _ h => h) fun _ _ _ => ⟨trivial, trivial⟩

theorem attends_of_tends {p : Op α} (h : Op.Only (·.tends) p) : Op.Attends scope new own p :=
  attends_of_only (Op.only_mono Scope.passes_of_tends h)

/-- What `p` gives is among `P`. -/
theorem attends_bind {P : α → Prop} {p : Op α} {f : α → Op β}
    (first : Op.wp (attending scope new own) (fun a _ => P a) (fun _ _ => True) p ())
    (rest : ∀ a, P a → Op.Attends scope new own (f a)) : Op.Attends scope new own (p >>= f) := fun _ _ =>
  wp_seq first (fun a t given => rest a given t trivial) fun _ _ _ => ⟨trivial, trivial⟩

theorem attends_load {decode : String → Except String α} {key : String} (admits : scope.Admits own (.fetch key)) :
    Op.Attends scope new own (loadRecord decode key) := attends_of_only (calls_loadRecord ⟨rfl, admits⟩)

/-- Calls that get no connection and say nothing to a server are within any scope. -/
theorem attends_call {c : Call} (h : scope.Passes own c) : Op.Attends scope new own (liftM (Program.call c .done)) :=
  attends_of_only (only_lift (Program.only_call h))

theorem free_attending {key : String} : Free (attending scope new own) (fun _ => True) key where
  put _ _ _ inside next := ⟨nofun, nofun, fun r _ => next r () inside⟩
  delete inside next := ⟨nofun, nofun, fun r _ => next r () inside⟩

theorem attends_put {key value : String} : Op.Attends scope new own (ofStore (Program.put key value)) :=
  keeps_put free_attending

/-! ## Connections -/

namespace Connections

theorem wp_attending_openUncached {cluster : ClusterRecord} {kind : LoginKind} {database : String} :
    Op.wp (attending scope new own) (fun c _ => new c) (fun _ _ => True) (openUncached cluster kind database) () := by
  refine (wp_bind_ofSql ..).2 ⟨nofun, nofun, fun opened told => ?_⟩
  cases opened with
  | error e => trivial
  | ok c => exact (wp_bind_lift ..).2 ⟨nofun, nofun, fun _ _ => told⟩

/-- A connection that is got is a new one, or one that others know. -/
theorem wp_attending_getWithin (known : ∀ c, new c → own c) {key : ConnectionKey} (reads : scope.reads key.cluster)
    (keeps : scope.keeps key) (more : Nat) :
    Op.wp (attending scope new own) (fun c _ => own c) (fun _ _ => True) (getWithin key more) () := by
  have closing (c : Connection) : Program.wp (attending scope new own) (fun _ _ => True) (closeQuietly c) () :=
    Program.attends_of_only (Program.only_mono Scope.passes_of_tends tends_closeQuietly)
  refine wp_getWithin (fun _ _ => True) (fun _ _ _ => True) (fun _ _ c _ => new c) (fun _ _ => trivial) ?_
    (fun _ _ _ _ => ?_) ?_ more trivial
  · refine fun _ _ _ => ⟨nofun, nofun, fun found told => ?_⟩
    cases found with
    | cached c => exact told
    | missing g => trivial
  · have loading : Op.Attends scope new own (loadRecord ClusterRecord.decode (StoreKeys.cluster key.cluster)) :=
      attends_load (Scope.admits_cluster reads)
    exact wp_found (loading () trivial) (fun _ _ => trivial) (fun _ _ _ => wp_attending_openUncached) fun _ _ _ => trivial
  · intro _ g c _ fresh
    have placing : ∀ key' g' c', Call.keep key g c = .keep key' g' c' → new c' := by
      rintro _ _ _ ⟨⟩
      exact fresh
    refine ⟨keeps, placing, fun placed told => ?_⟩
    cases placed with
    | kept => exact known c fresh
    | present existing => exact Program.wp_mono (fun _ _ _ => told) (closing c)
    | superseded => exact closing c

/-- Doing something on a management connection, where it is known what comes of it on one that may be used. -/
theorem wp_attending_onManagement (known : ∀ c, new c → own c) {cluster name : String}
    (reads : scope.reads cluster) (keeps : scope.keeps (managementKey cluster name)) {P : α → Prop}
    {act : Connection → Program (Except SqlError α)}
    (h : ∀ c, own c → Program.wp (attending scope new own) (fun r _ => ∀ a, r = .ok a → P a) (act c) ()) :
    Op.wp (attending scope new own) (fun a _ => P a) (fun _ _ => True) (onManagement cluster name act) () := by
  have getting : Op.wp (attending scope new own) (fun c _ => own c) (fun _ _ => True) (get (managementKey cluster name)) () :=
    wp_attending_getWithin known reads keeps attempts
  refine wp_onManagement (fun _ => True) (fun c _ => own c) (fun _ _ => getting) (fun c _ owned => ?_) trivial
  refine Program.wp_mono (fun r _ given => ?_) (h c owned)
  cases r with
  | ok a => exact given a rfl
  | error e => exact ⟨trivial, fun _ => trivial⟩

theorem wp_attending_startManagement (known : ∀ c, new c → own c) {cluster name : String}
    (reads : scope.reads cluster) (keeps : scope.keeps (managementKey cluster name)) :
    Op.wp (attending scope new own) (fun t _ => own t.connection) (fun _ _ => True) (startManagement cluster name) () := by
  refine wp_attending_onManagement known reads keeps fun c owned => ⟨?_, nofun, fun r told => ?_⟩
  · rintro _ ⟨⟩
    exact owned
  · rintro t rfl
    exact (show t.connection = c from told) ▸ owned

end Connections

end

/-! ## Operations -/

section
variable {scope : Scope} {new own : Connection → Prop}

/-- What is said over a connection that may be used is within any scope. -/
theorem Scope.passes_over {c : Connection} (owned : own c) {call : Call} (used : call.over? = some c) :
    scope.Passes own call := by
  cases call <;> cases used <;> exact ⟨rfl, fun _ same => Option.some.inj same ▸ owned⟩

theorem attends_flushed {what : Eviction} {outcome : Outcome Unit} : Op.Attends scope new own (Fleet.flushed what outcome) := by
  refine works_bind (attends_of_tends (only_lift Connections.tends_invalidate)) fun closed => ?_
  cases closed <;> exact works_pure _

theorem attends_andAlways {p : Op α} {q : Program Unit} (h : Op.Attends scope new own p)
    (always : Program.Only (scope.Passes own) q) : Op.Attends scope new own (p.andAlways q) := by
  intro s inside
  have after : Program.wp (attending scope new own) (fun _ _ => True) q () := Program.attends_of_only always
  refine (wp_andAlways ..).2 (wp_mono (h s inside) (fun _ _ _ => after) fun _ _ _ => ?_)
  exact Program.wp_mono (fun _ _ _ => ⟨trivial, trivial⟩) after

theorem attends_closing {p : Op α} {c : Connection} (h : Op.Only (scope.Passes own) p) :
    Op.Attends scope new own (p.andAlways (Connections.closeQuietly c)) :=
  attends_andAlways (attends_of_only h) (Program.only_mono Scope.passes_of_tends Connections.tends_closeQuietly)

namespace Fleet

variable {name : String}

theorem attends_readCluster (reads : scope.reads name) : Op.Attends scope new own (readCluster name) :=
  works_found (attends_load (Scope.admits_cluster reads)) (keeps_refuse _) fun c => keeps_unless (works_pure c)

theorem attends_registerCluster (known : ∀ c, new c → own c) {request : ClusterRequest} (reads : scope.reads name) :
    Op.Attends scope new own (registerCluster name request) := by
  refine works_bind (keeps_ofRefusal _) fun _ => works_bind (attends_load (Scope.admits_cluster reads)) fun record? => ?_
  cases record?
  case' some c => refine keeps_unless ?_
  all_goals
    refine works_bind (keeps_ofRefusal _) fun record => ?_
    refine attends_bind Connections.wp_attending_openUncached fun c fresh => ?_
    have provisioning : Op.Only (scope.Passes own) (provisionCluster c record.username) :=
      calls_provisionCluster (fun _ => Scope.passes_over (known c fresh) rfl) ⟨rfl, nofun⟩ ⟨rfl, nofun⟩
    refine works_bind (attends_closing provisioning) fun logins => works_bind attends_put fun _ => ?_
    refine works_bind (attends_of_tends (only_lift Connections.tends_invalidate)) fun closed => ?_
    cases closed <;> exact works_pure _

theorem attends_deleteCluster (reads : scope.reads name) : Op.Attends scope new own (deleteCluster name) :=
  works_bind (attends_readCluster reads) fun _ => works_bind attends_put fun _ => attends_flushed

variable {cluster : String}

theorem attends_provisionDatabase (known : ∀ c, new c → own c) {record : ClusterRecord} {owner : String}
    {createDatabase : Bool} :
    Op.Attends (.database cluster name) new own (provisionDatabase record cluster name owner createDatabase) := by
  have transacting : Op.Attends (.database cluster name) new own (provisionDatabase record cluster name owner false) := by
    refine attends_bind (Connections.wp_attending_startManagement known rfl Scope.keeps_management)
      fun t owned => ?_
    have running (sql : String) : (Scope.database cluster name).Passes own (.run t sql) := Scope.passes_over owned rfl
    refine works_bind (attends_of_only (only_lift (calls_runEach running _))) fun ran => ?_
    cases ran with
    | ok u => exact attends_of_only (only_ofSql (Program.only_call (Scope.passes_over owned rfl)))
    | error e =>
      refine works_bind (attends_of_only (only_lift ?_)) fun _ => works_throw trivial
      exact Program.only_bind (Program.only_call (Scope.passes_over owned rfl)) fun _ => Program.only_pure _
  cases createDatabase with
  | false => exact transacting
  | true =>
    have keeps : (Scope.database cluster name).keeps ⟨.root, cluster, none⟩ := ⟨rfl, nofun⟩
    refine attends_bind (Connections.wp_attending_getWithin known rfl keeps _) fun root owned => ?_
    refine works_bind (attends_of_only (only_inContext (only_ofSql (Program.only_call ?_)))) fun _ => transacting
    exact Scope.passes_over owned rfl

theorem attends_registerDatabase (known : ∀ c, new c → own c) {request : DatabaseRequest} :
    Op.Attends (.database cluster name) new own (registerDatabase cluster name request) := by
  have storing (owner : String) : Op.Attends (.database cluster name) new own (enter cluster name owner) :=
    works_bind attends_put fun _ => works_pure _
  refine works_bind (keeps_ofRefusal _) fun _ => works_bind (keeps_ofRefusal _) fun _ => ?_
  refine works_found (attends_load (Scope.admits_cluster rfl)) (keeps_refuse _) fun c => ?_
  refine keeps_unless (works_found (attends_load (Scope.admits_database _ _)) ?_ fun d => keeps_refused)
  refine works_bind (attends_of_only (only_lift (only_chooseOwner (P := Scope.Passes _ own) ⟨rfl, nofun⟩))) fun owner => ?_
  dsimp only
  cases request.provision with
  | true => exact works_bind (attends_provisionDatabase known) fun _ => storing owner
  | false => exact storing owner

theorem attends_deleteDatabase (reads : scope.reads cluster) : Op.Attends scope new own (deleteDatabase cluster name) := by
  refine works_found (attends_load (Scope.admits_cluster reads)) (keeps_refuse _) fun c => ?_
  refine keeps_unless (works_found (attends_load (Scope.admits_database _ _)) (keeps_refuse _) fun d => ?_)
  exact keeps_unless (works_bind attends_put fun _ => attends_flushed)

end Fleet

namespace Reclaim

theorem attends_purgeCluster {name : String} (reads : scope.reads name) : Op.Attends scope new own (purgeCluster name) := by
  have reading : Op.Attends scope new own (readCluster name) :=
    works_found (attends_load (Scope.admits_cluster reads)) (keeps_refuse _) fun c => keeps_unless (works_pure c)
  exact works_bind reading fun _ => works_bind (keeps_delete free_attending) fun _ => attends_flushed

theorem attends_purgeDatabase {cluster name : String} : Op.Attends scope new own (purgeDatabase cluster name) := by
  have reading : Op.Attends scope new own (readDatabase cluster name) :=
    works_found (attends_load (Scope.admits_database _ _)) (keeps_refuse _) fun d => keeps_unless (works_pure d)
  exact works_bind reading fun _ => works_bind (keeps_delete free_attending) fun _ => attends_flushed

end Reclaim

namespace Replicas

variable {source : String} {request : CloneRequest}

theorem attends_checkClone (reads : scope.reads source) (reads' : scope.reads request.target) :
    Op.Attends scope new own (checkClone source request) := by
  unfold checkClone
  refine keeps_unless ?_
  cases validPort? request.port with
  | none => exact keeps_refuse _
  | some port =>
    refine works_found (attends_load (Scope.admits_cluster reads)) (keeps_refuse _) fun record => ?_
    refine keeps_unless (keeps_unless (works_bind (keeps_ofRefusal _) fun _ => ?_))
    exact works_found (attends_load (Scope.admits_cluster reads')) (works_pure _) fun c => keeps_refused

theorem only_copyDatabases_passes {target : String} (inheritDeleted : Bool) :
    Program.Only (scope.Passes own) (copyDatabases source target inheritDeleted) :=
  calls_copyDatabases ⟨rfl, nofun⟩ (fun _ => ⟨rfl, Scope.admits_database _ _⟩) (fun _ _ => ⟨rfl, nofun⟩) inheritDeleted

theorem attends_cloneCluster (known : ∀ c, new c → own c) (reads : scope.reads source) (reads' : scope.reads request.target) :
    Op.Attends scope new own (cloneCluster source request) := by
  refine works_bind (attends_checkClone reads reads') fun record => ?_
  refine works_bind (attends_of_tends tends_tryManagement) fun warnings => ?_
  refine attends_bind ((wp_inContext ..).2 Connections.wp_attending_openUncached) fun root fresh => ?_
  have rotating : Op.Only (scope.Passes own) (rotateBoth root record) :=
    calls_rotateBoth (fun _ => Scope.passes_over (known root fresh) rfl) ⟨rfl, nofun⟩
  refine works_bind (attends_closing rotating) fun passwords => ?_
  refine works_bind (attends_of_only (only_inContext (only_ofStore (Program.only_call ⟨rfl, nofun⟩)))) fun _ => ?_
  exact works_bind (attends_of_only (only_lift (only_copyDatabases_passes _))) fun _ => works_pure _

end Replicas

namespace Credentials

theorem attends_issueCredential (known : ∀ c, new c → own c) {settings : Settings} {cluster name role displayName : String} :
    Op.Attends (.database cluster name) new own (issueCredential settings cluster name role displayName) := by
  refine works_found (attends_load (Scope.admits_cluster rfl)) (keeps_refuse _) fun c => ?_
  refine keeps_unless (works_found (attends_load (Scope.admits_database _ _)) (keeps_refuse _) fun d => ?_)
  refine keeps_unless (works_found (attends_load (Scope.admits_role _)) (keeps_refuse _) fun r => ?_)
  refine works_bind (attends_call ⟨rfl, nofun⟩) fun _ => works_bind (attends_call ⟨rfl, nofun⟩) fun _ => ?_
  refine works_bind (attends_call ⟨rfl, nofun⟩) fun now => ?_
  refine attends_bind (Connections.wp_attending_startManagement known rfl Scope.keeps_management)
    fun t owned => ?_
  have running (sql : String) : (Scope.database cluster name).Passes own (.run t sql) := Scope.passes_over owned rfl
  refine works_bind (attends_of_only (only_lift (Fleet.calls_runEach running _))) fun ran => ?_
  cases ran with
  | error e =>
    refine works_bind (attends_of_only (only_lift ?_)) fun _ => works_throw trivial
    exact Program.only_bind (Program.only_call (Scope.passes_over owned rfl)) fun _ => Program.only_pure _
  | ok u =>
    refine works_bind (attends_of_only (only_ofSql (Program.only_call (Scope.passes_over owned rfl)))) fun _ => ?_
    exact works_bind (attends_call ⟨rfl, nofun⟩) fun _ => works_pure _

theorem attends_renewCredential (known : ∀ c, new c → own c) {settings : Settings} {secret : LeaseSecret} {increment : Span}
    {issued : Instant} :
    Op.Attends (.database secret.cluster secret.database) new own (renewCredential settings secret increment issued) := by
  refine works_found (attends_load (Scope.admits_role _)) (keeps_refuse _) fun r => ?_
  refine works_found (attends_load (Scope.admits_cluster rfl)) (keeps_refuse _) fun c => ?_
  refine keeps_unless (works_found (attends_load (Scope.admits_database _ _)) (keeps_refuse _) fun d => ?_)
  refine keeps_unless (works_bind (attends_call ⟨rfl, nofun⟩) fun now => ?_)
  dsimp only
  generalize TermRequest.grant _ _ = grant
  cases grant.value.isZero with
  | true => exact works_pure _
  | false =>
    have extending (sql : String) : Op.wp (attending (.database secret.cluster secret.database) new own)
        (fun _ _ => True) (fun _ _ => True) (Connections.executeManagement secret.cluster secret.database sql) () := by
      refine Connections.wp_attending_onManagement (P := fun _ => True) known rfl Scope.keeps_management fun c owned => ?_
      have passes : (Scope.database secret.cluster secret.database).Passes own (.execute c sql) :=
        Scope.passes_over owned rfl
      exact ⟨passes.2, nofun, fun _ _ _ _ => trivial⟩
    refine attends_bind (extending _) fun _ _ => ?_
    exact works_bind (attends_call ⟨rfl, nofun⟩) fun _ => works_pure _

theorem attends_revokeCredential (known : ∀ c, new c → own c) {secret : LeaseSecret} :
    Op.Attends (.database secret.cluster secret.database) new own (revokeCredential secret) := by
  have planning : Op.Attends (.database secret.cluster secret.database) new own (revocationPlan secret.role) :=
    works_found (attends_load (Scope.admits_role _)) (works_pure _) fun _ => works_pure _
  have revoking {t : Transaction} (owned : own t.connection) {bindings : Bindings} {templates : List String} :
      Op.Only ((Scope.database secret.cluster secret.database).Passes own) (revokeWithin t bindings templates) :=
    calls_revokeWithin (fun _ => Scope.passes_over owned rfl) (Scope.passes_over owned rfl)
  refine works_bind planning fun plan => works_found (attends_load (Scope.admits_cluster rfl)) (keeps_refuse _) fun c => ?_
  refine works_found (attends_load (Scope.admits_database _ _)) (keeps_refuse _) fun d => ?_
  have counting (warnings : List Warning) :
      Op.Attends (.database secret.cluster secret.database) new own (countRevoked plan.warnings warnings) :=
    works_bind (attends_call ⟨rfl, nofun⟩) fun _ => works_pure _
  dsimp only
  cases c.disabled || d.disabled with
  | true =>
    refine works_bind (attends_bind Connections.wp_attending_openUncached fun conn fresh => ?_) counting
    have owned := known conn fresh
    have starting : Op.wp (attending (.database secret.cluster secret.database) new own)
        (fun t _ => own t.connection) (fun _ _ => True) (ofSql (Program.start conn)) () := by
      have passes : (Scope.database secret.cluster secret.database).Passes own (.start conn) :=
        Scope.passes_over owned rfl
      refine (wp_ofSql _).2 ⟨passes.2, nofun, fun r told => ?_⟩
      cases r with
      | error e => trivial
      | ok t => exact (show t.connection = conn from told) ▸ owned
    refine attends_andAlways (attends_bind starting fun t owned => attends_of_only (revoking owned)) ?_
    exact Program.only_mono Scope.passes_of_tends Connections.tends_closeQuietly
  | false =>
    refine attends_bind (Connections.wp_attending_startManagement known rfl Scope.keeps_management) fun t owned => ?_
    exact works_bind (attends_of_only (revoking owned)) counting

end Credentials

end

/-! ## Commands -/

namespace Command

/-- The clusters of which a command may read the record, and the keys under which it may cache connections. -/
def scope : Command → Scope
  | registerCluster name _ => .clusters (· = name)
  | deleteCluster name => .clusters (· = name)
  | purgeCluster name => .clusters (· = name)
  | cloneCluster source request => .clusters fun name => name = source ∨ name = request.target
  | registerDatabase cluster name _ => .database cluster name
  | deleteDatabase cluster _ => .clusters (· = cluster)
  | writeTags cluster _ _ => .clusters (· = cluster)
  | issueCredential _ cluster name _ _ => .database cluster name
  | renewCredential _ secret _ _ => .database secret.cluster secret.database
  | revokeCredential secret => .database secret.cluster secret.database
  | inquire _ => .clusters fun _ => True
  | _ => .nothing

theorem attends_op {new own : Connection → Prop} (known : ∀ c, new c → own c) (command : Command) :
    Op.Attends command.scope new own command.op := by
  cases command with
  | registerCluster name request => exact keeps_unkept (Fleet.attends_registerCluster known rfl)
  | deleteCluster name => exact keeps_unkept (Fleet.attends_deleteCluster rfl)
  | purgeCluster name => exact keeps_unkept (Reclaim.attends_purgeCluster rfl)
  | cloneCluster source request => exact keeps_unkept (Replicas.attends_cloneCluster known (.inl rfl) (.inr rfl))
  | registerDatabase cluster name request => exact keeps_unkept (Fleet.attends_registerDatabase known)
  | deleteDatabase cluster name => exact keeps_unkept (Fleet.attends_deleteDatabase rfl)
  | purgeDatabase cluster name => exact keeps_unkept Reclaim.attends_purgeDatabase
  | writeRole limits name request => exact keeps_unkept (keeps_writeRole free_attending)
  | deleteRole name => exact keeps_unkept (keeps_delete free_attending)
  | writeTags cluster name tags =>
    have storing : Op.Attends (.clusters (· = cluster)) new own (TagIndex.enter cluster name tags) :=
      works_bind (keeps_ofRefusal _) fun _ => works_bind attends_put fun _ => works_pure _
    refine keeps_unkept (works_found (attends_load (Scope.admits_cluster rfl)) (keeps_refuse _) fun c => ?_)
    cases name with
    | none => exact storing
    | some name =>
      exact works_found (attends_load (Scope.admits_database _ _)) keeps_refused fun _ => storing
  | eraseTags id => exact keeps_unkept (keeps_eraseTags free_attending)
  | issueCredential settings cluster name role displayName =>
    exact works_bind (Credentials.attends_issueCredential known) fun _ => works_pure _
  | renewCredential settings secret increment issued => exact keeps_unkept (Credentials.attends_renewCredential known)
  | revokeCredential secret => exact keeps_unkept (Credentials.attends_revokeCredential known)
  | inquire about =>
    refine attends_of_only (Op.only_mono (fun c quiet => ?_) about.only_op)
    exact ⟨c.not_keeps_of_quiet quiet, Scope.admits_of_quiet (fun _ => trivial) c quiet⟩
  | shutDown => exact keeps_unkept (attends_of_tends (only_lift Connections.tends_invalidate))

end Command

/-! ## Between commands -/

namespace Surroundings

variable {s t u : Surroundings} {i : Nat} {c : Call} {r : c.Answer}

/-- From `s` to `t` no calls were made but those of `P`. -/
def Made (P : Call → Prop) (s t : Surroundings) : Prop :=
  ∃ events, t.history = events ++ s.history ∧ ∀ e ∈ events, P e.call

section
variable {P : Call → Prop}

theorem Made.refl (P : Call → Prop) (s : Surroundings) : Made P s s := ⟨[], rfl, List.forall_mem_nil _⟩

theorem Made.after (h : Made P s t) (own : P c) : Made P s (t.after i c r) := by
  obtain ⟨events, grown, made⟩ := h
  refine ⟨⟨i, c, r⟩ :: events, congrArg (List.cons _) grown, fun e member => ?_⟩
  rcases List.mem_cons.1 member with rfl | earlier
  · exact own
  · exact made e earlier

theorem Made.trans (h : Made P s t) (h' : Made P t u) : Made P s u := by
  obtain ⟨events, grown, made⟩ := h
  obtain ⟨events', grown', made'⟩ := h'
  refine ⟨events' ++ events, by rw [grown', grown, List.append_assoc], fun e member => ?_⟩
  exact (List.mem_append.1 member).elim (made' e) (made e)

theorem Made.mono {P' : Call → Prop} (h : Made P s t) (wider : ∀ c, P c → P' c) : Made P' s t := by
  obtain ⟨events, grown, made⟩ := h
  exact ⟨events, grown, fun e member => wider _ (made e member)⟩

theorem wp_made {p : Op α} (h : Op.Only P p) (before : Made P s t) :
    Op.wp (alone i) (fun _ u => Made P s u) (fun _ u => Made P s u) p t :=
  Op.wp_of_only (fun _ _ _ own made next => alone_iff.2 fun r _ => next r _ (made.after own)) h before

theorem Made.history_grows (h : Made P s t) : s.history <:+ t.history := by
  obtain ⟨events, grown, -⟩ := h
  exact ⟨events, grown.symm⟩

theorem opened_of_suffix {conn : Connection} (grown : s.history <:+ t.history) (opened : conn ∈ s.opened) :
    conn ∈ t.opened := (List.IsSuffix.filterMap _ grown).subset opened

theorem Made.opened (h : Made P s t) {conn : Connection} (opened : conn ∈ s.opened) : conn ∈ t.opened :=
  opened_of_suffix h.history_grows opened

end

/-- From `s` to `t` things were asked for, and nothing was changed. -/
structure Asked (s t : Surroundings) : Prop where
  untouched : s.Untouched t
  made : s.Made (·.quiet) t

theorem Asked.refl (s : Surroundings) : s.Asked s := ⟨.refl s, .refl _ s⟩

section
variable {ok : β → Surroundings → Prop} {fail : BrokerError → Surroundings → Prop} (before : s.Asked t)
  (failed : ∀ e u, s.Asked u → fail e u)
include before

theorem wp_asked {p : Op α} (h : Op.Only (·.quiet) p) :
    Op.wp (alone i) (fun _ u => s.Asked u) (fun _ u => s.Asked u) p t := by
  have untouched : Op.wp (alone i) (fun _ u => t.Untouched u) (fun _ u => t.Untouched u) p t := wp_either.2 (wp_quiet h)
  have asked := wp_both untouched (wp_made (i := i) h before.made)
  exact wp_mono asked (fun _ _ read => ⟨before.untouched.trans read.1, read.2⟩)
    fun _ _ read => ⟨before.untouched.trans read.1, read.2⟩

include failed

theorem wp_bind_asked {p : Op α} {f : α → Op β} (h : Op.Only (·.quiet) p)
    (rest : ∀ a u, s.Asked u → Op.wp (alone i) ok fail (f a) u) : Op.wp (alone i) ok fail (p >>= f) t :=
  wp_seq (wp_asked before h) rest failed

/-- A record that is loaded is what was stored at first. -/
theorem wp_load_asked {decode : String → Except String α} {key : String} {f : Option α → Op β}
    (rest : ∀ a? u, Loads decode s.values key a? → s.Asked u → Op.wp (alone i) ok fail (f a?) u) :
    Op.wp (alone i) ok fail (loadRecord decode key >>= f) t := by
  refine wp_seq (wp_both wp_loadRecord (wp_asked before only_loadRecord)) (fun a? u read => ?_)
    fun e u read => failed e u read.2
  obtain ⟨⟨-, loads⟩, asked⟩ := read
  rw [before.untouched.values] at loads
  exact rest a? u loads asked

end

/-- The connection was opened on the way from `s` to `t`. -/
def Opens (s t : Surroundings) (c : Connection) : Prop := c ∉ s.opened ∧ c ∈ t.opened

/-- The connections that a program may use that begins now: cached ones, and those that are not yet open. -/
def Own (s : Surroundings) (c : Connection) : Prop := c ∉ s.opened ∨ ∃ key, (key, c) ∈ s.broker.cache.entries

/-- What a program within a scope has done until `u` on its way from `s` to `t`: by which calls, and what is cached. -/
structure Attended (scope : Scope) (s t u : Surroundings) : Prop where
  calls : s.Made (scope.Admits s.Own) u
  cached : ∀ key c, (key, c) ∈ u.broker.cache.entries →
    (key, c) ∈ s.broker.cache.entries ∨ scope.keeps key ∧ s.Opens t c

namespace Attended

variable {scope : Scope}

theorem refl (scope : Scope) (s t : Surroundings) : Attended scope s t s := ⟨.refl _ s, fun _ _ => .inl⟩

theorem owns (h : Attended scope s t u) {key : ConnectionKey} {conn : Connection}
    (cached : (key, conn) ∈ u.broker.cache.entries) : s.Own conn := by
  rcases h.cached key conn cached with before | ⟨-, opened⟩
  · exact .inr ⟨key, before⟩
  · exact .inl opened.1

/-- What a caller is told of connections is true. -/
theorem told (h : Attended scope s t u) (allowed : u.Allows c r) (later : (u.after i c r).history <:+ t.history) :
    c.Told (s.Opens t) s.Own r := by
  cases c with
  | connect target =>
    cases r with
    | error e => trivial
    | ok conn =>
      constructor
      · intro before
        exact (allowed conn rfl).2 conn (h.calls.opened before) rfl
      · exact opened_of_suffix later List.mem_cons_self
  | start conn =>
    cases r with
    | error e => trivial
    | ok transaction => exact (allowed transaction rfl).1
  | find key =>
    replace allowed : r = u.broker.cache.find key := allowed
    subst allowed
    unfold ConnectionCache.find
    split
    · rename_i conn found
      exact h.owns (ConnectionCache.mem_of_get? found)
    · trivial
  | keep key g conn =>
    replace allowed : r = (u.broker.keep key g conn).1 := allowed
    rw [BrokerState.placement_keep] at allowed
    cases r with
    | present existing => exact h.owns (ConnectionCache.mem_of_get? (ConnectionCache.get?_of_present allowed.symm))
    | kept | superseded => trivial
  | _ => trivial

theorem after (h : Attended scope s t u) (admits : scope.Admits s.Own c)
    (placing : ∀ key g conn, c = .keep key g conn → s.Opens t conn) : Attended scope s t (u.after i c r) := by
  refine ⟨h.calls.after admits, fun key conn member => ?_⟩
  cases c with
  | keep key' g conn' =>
    rcases entries_after_keep member with before | ⟨-, own⟩
    · exact h.cached key conn before
    · cases own
      exact .inr ⟨admits, placing _ _ _ rfl⟩
  | _ => exact h.cached key conn (entries_after (fun _ _ _ => Call.noConfusion) member).1

/-- A program that stays within its scope has done so when it ends. -/
theorem of_runs {p : Program α} {a : α} (before : Attended scope s t u) (run : Runs i p u a t)
    (attends : Program.wp (attending scope (s.Opens t) s.Own) (fun _ _ => True) p ()) : Attended scope s t t := by
  induction run with
  | done => exact before
  | call reply rest ih =>
    obtain ⟨allowed, rfl⟩ := reply
    obtain ⟨admits, placing, attends⟩ := attends
    exact ih (before.after admits placing) (attends _ (before.told allowed (history_grows rest)))

end Attended

end Surroundings

/-- What a command may do with connections, whatever comes of it. -/
theorem Command.attended {i : Nat} {s t : Surroundings} {command : Command} {reply : Except BrokerError (Option Credential)}
    (run : Surroundings.Runs i command.op.run s reply t) : s.Attended command.scope t t := by
  have attends : Op.Attends command.scope (s.Opens t) s.Own command.op := command.attends_op fun _ opened => .inl opened.1
  exact (Surroundings.Attended.refl _ s t).of_runs run (Program.wp_mono (fun _ _ _ => trivial) (attends () trivial))

end LeaseBroker
