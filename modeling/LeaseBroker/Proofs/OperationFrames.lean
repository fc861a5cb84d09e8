import LeaseBroker.Proofs.ServerWork

/-!
What operations leave alone. An invariant that is kept by all that operations
are made of, but for their writes (`Habit`), is kept by every operation, as long
as it is also kept by the writes of that operation. What an operation writes is a
key or two, so for each invariant there is little to look at. For most invariants
there is less: they are kept by reading, by every call to a server, and by getting
a connection (`Routine`).
-/
namespace LeaseBroker

open Program (Demands Monotone)

variable {σ α β : Type}

/-- All but writing keeps `I`. -/
structure Routine (D : Demands σ) (I : σ → Prop) : Prop where
  labour : Labour D I (fun _ => True)
  quiet {c : Call} {K : c.Answer → σ → Prop} {s : σ} (h : c.quiet) (inside : I s) (next : ∀ r t, I t → K r t) : D c K s
  get (key : ConnectionKey) : Op.Works D I (fun _ => True) (Connections.get key)

section
variable (D : Demands σ) (I : σ → Prop)

/-- Whatever comes of `p`, `I` is kept. -/
abbrev Op.Keeps (p : Op α) : Prop := Op.Works D I (fun _ => True) p

/-- A write under the key keeps `I`. -/
structure Free (key : String) : Prop where
  put (value : String) {K : Except StoreError Unit → σ → Prop} {s : σ} (inside : I s) (next : ∀ r t, I t → K r t) :
    D (.put key value) K s
  delete {K : Except StoreError Unit → σ → Prop} {s : σ} (inside : I s) (next : ∀ r t, I t → K r t) : D (.delete key) K s

/-- A write of the record of a cluster keeps `I`, once the cluster has been invalidated after it. -/
structure Renewable (name : String) : Prop where
  put (value : String) : Op.Keeps D I (do
    Op.ofStore (Program.put (StoreKeys.cluster name) value)
    Connections.invalidate (.cluster name))
  delete : Op.Keeps D I (do
    Op.ofStore (Program.delete (StoreKeys.cluster name))
    Connections.invalidate (.cluster name))

/-- A connection is opened that is not cached, perhaps with a word on what for. -/
inductive Connections.Opens : Op Connection → Prop
  | plain (cluster : ClusterRecord) (kind : LoginKind) (database : String) : Opens (openUncached cluster kind database)
  | inContext (what : String) (cluster : ClusterRecord) (kind : LoginKind) (database : String) :
      Opens (Op.inContext what (openUncached cluster kind database))

/-- All that operations are made of, but for their writes, keeps `I`: where a connection is opened it is closed, and where
    one is taken out of the cache too. -/
structure Habit : Prop where
  toil : Toil D I (fun _ => True)
  quiet {c : Call} {K : c.Answer → σ → Prop} {s : σ} (h : c.quiet) (inside : I s) (next : ∀ r t, I t → K r t) : D c K s
  get (key : ConnectionKey) : Op.Keeps D I (Connections.get key)
  use {α : Type} {opening : Op Connection} {body : Connection → Op α} (opens : Connections.Opens opening)
    (toils : ∀ c, Op.Only (·.toils) (body c)) :
    Op.Keeps D I (opening >>= fun c => (body c).andAlways (Connections.closeQuietly c))
  tryManagement (record : ClusterRecord) : Op.Keeps D I (Replicas.tryManagement record)
  invalidate (what : Eviction) : Op.Keeps D I (liftM (Connections.invalidate what))

end

open Op

variable {D : Demands σ} {I : σ → Prop}

/-! ## Steps -/

theorem keeps_refuse (why : Refusal) : Op.Keeps D I (refuse why : Op α) := works_throw trivial

theorem keeps_ofRefusal (r : Except Refusal α) : Op.Keeps D I (ofRefusal r) := by
  intro s inside
  cases r with
  | ok a => exact inside
  | error why => exact ⟨inside, trivial⟩

theorem keeps_refused {why : Refusal} {rest : α → Op β} : Op.Keeps D I (refuse why >>= rest) :=
  fun _ inside => (wp_bind ..).2 ⟨inside, trivial⟩

theorem keeps_unless {b : Bool} {why : Refusal} {rest : Unit → Op β} (h : Op.Keeps D I (rest ())) :
    Op.Keeps D I (if b then refuse why >>= rest else rest ()) := by
  cases b
  · exact h
  · exact keeps_refused

variable [Monotone D]

theorem keeps_ofStore {p : Program (Except StoreError α)} (h : ∀ s, I s → Program.wp D (fun _ => I) p s) :
    Op.Keeps D I (ofStore p) := by
  intro s inside
  refine (wp_ofStore _).2 (Program.wp_mono (fun r t later => ?_) (h s inside))
  cases r with
  | ok a => exact later
  | error e => exact ⟨later, trivial⟩

theorem keeps_put {key value : String} (free : Free D I key) : Op.Keeps D I (ofStore (Program.put key value)) :=
  keeps_ofStore fun _ inside => free.put value inside fun _ _ later => later

theorem keeps_delete {key : String} (free : Free D I key) : Op.Keeps D I (ofStore (Program.delete key)) :=
  keeps_ofStore fun _ inside => free.delete inside fun _ _ later => later

/-- What follows the use of a connection does not depend on it. -/
theorem keeps_used {opening : Op Connection} {body : Connection → Op α} {always : Connection → Program Unit} {f : α → Op β}
    (used : Op.Keeps D I (opening >>= fun c => (body c).andAlways (always c))) (rest : ∀ a, Op.Keeps D I (f a)) :
    Op.Keeps D I (opening >>= fun c => (body c).andAlways (always c) >>= f) := by
  rw [← bind_assoc opening fun c => (body c).andAlways (always c)]
  exact works_bind used rest

theorem keeps_renewed {what : Eviction} {write : Op Unit} {f : Except SqlError Nat → Op β}
    (renewed : Op.Keeps D I (do
      write
      Connections.invalidate what))
    (rest : ∀ closed, Op.Keeps D I (f closed)) :
    Op.Keeps D I (write >>= fun _ => liftM (Connections.invalidate what) >>= f) := by
  rw [← bind_assoc]
  exact works_bind renewed rest

theorem keeps_writeRole {limits : LeaseLimits} {name : String} {request : RoleRequest}
    (free : Free D I (StoreKeys.role name)) : Op.Keeps D I (RoleTemplates.writeRole limits name request) := by
  refine works_bind (keeps_ofRefusal _) fun _ => keeps_unless ?_
  exact works_bind (keeps_put free) fun _ => works_pure _

theorem keeps_eraseTags {id : String} (free : Free D I (StoreKeys.tagSet id)) : Op.Keeps D I (TagIndex.erase id) := by
  unfold TagIndex.erase
  exact keeps_unless (keeps_delete free)

/-- What every call to a server keeps is a habit. -/
theorem Routine.habit (r : Routine D I) : Habit D I where
  toil := r.labour.toil
  quiet := r.quiet
  get := r.get
  use opens toils := by
    refine works_bind ?_ fun c => works_andAlways r.labour ?_ Connections.only_closeQuietly
    · cases opens with
      | plain => exact Connections.works_openUncached r.labour
      | inContext => exact works_inContext r.labour.toil (Connections.works_openUncached r.labour)
    · exact fun s inside => wp_mono (wp_either.2 (r.labour.toil.wp_of_only (toils c) inside)) (fun _ _ later => later)
        fun _ _ later => ⟨later, trivial⟩
  tryManagement _ := Replicas.works_tryManagement r.labour
  invalidate _ := works_lift r.labour Connections.only_invalidate

namespace Habit

variable (h : Habit D I)
include h

omit [Monotone D] in
theorem keeps_program {p : Program α} (only : Program.Only (·.quiet) p) {s : σ} (inside : I s) :
    Program.wp D (fun _ => I) p s :=
  Program.wp_of_only (D := D) (I := I) (fun _ _ _ quiet inside next => h.quiet quiet inside next) only inside

theorem keeps_quiet {p : Op α} (only : Op.Only (·.quiet) p) : Op.Keeps D I p := by
  intro s inside
  have kept : Op.wp D (fun _ => I) (fun _ => I) p s := wp_either.2 (h.keeps_program only inside)
  exact wp_mono kept (fun _ _ later => later) fun _ _ later => ⟨later, trivial⟩

theorem keeps_lift {p : Program α} (only : Program.Only (·.quiet) p) : Op.Keeps D I (liftM p : Op α) :=
  h.keeps_quiet (only_lift only)

theorem keeps_loaded {decode : String → Except String α} {key : String} {f : Option α → Op β}
    (missing : Op.Keeps D I (f none)) (found : ∀ a, Op.Keeps D I (f (some a))) :
    Op.Keeps D I (loadRecord decode key >>= f) := works_found (h.keeps_quiet only_loadRecord) missing found

theorem keeps_flushed {what : Eviction} {outcome : Outcome Unit} : Op.Keeps D I (Fleet.flushed what outcome) := by
  refine works_bind (h.invalidate what) fun closed => ?_
  cases closed <;> exact works_pure _

theorem renewable {name : String} (free : Free D I (StoreKeys.cluster name)) : Renewable D I name where
  put _ := works_bind (keeps_put free) fun _ => h.invalidate _
  delete := works_bind (keeps_delete free) fun _ => h.invalidate _

/-! ## Clusters -/

theorem keeps_registerCluster {name : String} {request : ClusterRequest} (renewable : Renewable D I name) :
    Op.Keeps D I (Fleet.registerCluster name request) := by
  refine works_bind (keeps_ofRefusal _) fun _ => works_bind (h.keeps_quiet only_loadRecord) fun record? => ?_
  split
  all_goals
    try refine keeps_unless ?_
    refine works_bind (keeps_ofRefusal _) fun record => ?_
    refine keeps_used (h.use (.plain ..) fun c => Fleet.calls_provisionCluster (fun _ => rfl) rfl rfl) fun logins => ?_
    refine keeps_renewed (renewable.put _) fun closed => ?_
    cases closed <;> exact works_pure _

theorem keeps_deleteCluster {name : String} (renewable : Renewable D I name) : Op.Keeps D I (Fleet.deleteCluster name) := by
  refine works_bind (h.keeps_quiet Fleet.only_readCluster) fun c => keeps_renewed (renewable.put _) fun closed => ?_
  cases closed <;> exact works_pure _

theorem keeps_purgeCluster {name : String} (renewable : Renewable D I name) : Op.Keeps D I (Reclaim.purgeCluster name) := by
  refine works_bind (h.keeps_quiet Reclaim.only_readCluster) fun c => keeps_renewed renewable.delete fun closed => ?_
  cases closed <;> exact works_pure _

theorem keeps_copyEach {source target : String} (saving : ∀ name d, Op.Keeps D I (saveDatabase target name d))
    (inheritDeleted : Bool) (names : List String) {s : σ} (inside : I s) :
    Program.wp D (fun _ => I) (Replicas.copyEach source target inheritDeleted names) s := by
  have copying (name : String) (s : σ) (inside : I s) :
      Program.wp D (fun _ => I) (Replicas.copyDatabase source target inheritDeleted name) s := by
    refine Program.wp_seq (h.keeps_program only_loadRecord inside) fun loaded t inside => ?_
    split
    · exact inside
    · exact inside
    · split
      · exact inside
      · rename_i d _
        have stored := wp_either.1 (wp_mono (saving name { d with cluster := target } t inside)
          (fun _ _ later => later) fun _ _ failed => failed.1)
        refine Program.wp_seq stored fun stored u inside => ?_
        cases stored <;> exact inside
  induction names generalizing s with
  | nil => exact inside
  | cons name names ih =>
    refine Program.wp_seq (copying name s inside) fun copied t inside => ?_
    exact Program.wp_seq (ih inside) fun _ _ later => later

theorem keeps_copyDatabases {source target : String} (saving : ∀ name d, Op.Keeps D I (saveDatabase target name d))
    (inheritDeleted : Bool) {s : σ} (inside : I s) :
    Program.wp D (fun _ => I) (Replicas.copyDatabases source target inheritDeleted) s := by
  refine Program.wp_seq (h.keeps_program (Program.only_call rfl) inside) fun listed t inside => ?_
  cases listed with
  | error e => exact inside
  | ok entries => exact h.keeps_copyEach saving _ _ inside

theorem keeps_cloneCluster {source : String} {request : CloneRequest}
    (free : Free D I (StoreKeys.cluster request.target))
    (saving : ∀ name d, Op.Keeps D I (saveDatabase request.target name d)) :
    Op.Keeps D I (Replicas.cloneCluster source request) := by
  refine works_bind (h.keeps_quiet Replicas.only_checkClone) fun record => ?_
  refine works_bind (h.tryManagement record) fun warnings => ?_
  refine keeps_used (h.use (.inContext ..) fun root => Replicas.calls_rotateBoth (fun _ => rfl) rfl) fun passwords => ?_
  refine works_bind (works_inContext h.toil (keeps_put free)) fun _ => ?_
  exact works_bind (fun s inside => (wp_lift _).2 (h.keeps_copyDatabases saving _ inside)) fun _ => works_pure _

/-! ## Databases -/

/-- A registration writes the record of an active database. -/
theorem keeps_registerDatabase_of {cluster name : String} {request : DatabaseRequest}
    (saving : ∀ owner, Op.Keeps D I
      (saveDatabase cluster name { cluster, database := name, objectsOwner := owner, disabled := false })) :
    Op.Keeps D I (Fleet.registerDatabase cluster name request) := by
  have storing (owner : String) : Op.Keeps D I (Fleet.enter cluster name owner) :=
    works_bind (saving owner) fun _ => works_pure _
  refine works_bind (keeps_ofRefusal _) fun _ => works_bind (keeps_ofRefusal _) fun _ => ?_
  refine h.keeps_loaded (keeps_refuse _) fun c => keeps_unless ?_
  refine h.keeps_loaded ?_ fun d => keeps_refused
  refine works_bind (h.keeps_lift (Fleet.only_chooseOwner rfl)) fun owner => ?_
  dsimp only
  split
  · exact works_bind (Fleet.works_provisionDatabase h.toil fun key _ => h.get key) fun _ => storing owner
  · exact storing owner

theorem keeps_registerDatabase {cluster name : String} {request : DatabaseRequest}
    (free : Free D I (StoreKeys.database cluster name)) : Op.Keeps D I (Fleet.registerDatabase cluster name request) :=
  h.keeps_registerDatabase_of fun _ => keeps_put free

/-- A deletion writes the record of the database and invalidates it after that. -/
theorem keeps_deleteDatabase_of {cluster name : String}
    (flushing : ∀ d : DatabaseRecord, Op.Keeps D I (do
      saveDatabase cluster name d
      Connections.invalidate (.database cluster name))) :
    Op.Keeps D I (Fleet.deleteDatabase cluster name) := by
  refine h.keeps_loaded (keeps_refuse _) fun c => keeps_unless ?_
  refine h.keeps_loaded (keeps_refuse _) fun d => keeps_unless ?_
  refine keeps_renewed (flushing { d with disabled := true }) fun closed => ?_
  cases closed <;> exact works_pure _

theorem keeps_deleteDatabase {cluster name : String} (free : Free D I (StoreKeys.database cluster name)) :
    Op.Keeps D I (Fleet.deleteDatabase cluster name) :=
  h.keeps_deleteDatabase_of fun _ => works_bind (keeps_put free) fun _ => h.invalidate _

theorem keeps_purgeDatabase {cluster name : String} (free : Free D I (StoreKeys.database cluster name)) :
    Op.Keeps D I (Reclaim.purgeDatabase cluster name) :=
  works_bind (h.keeps_quiet Reclaim.only_readDatabase) fun _ => works_bind (keeps_delete free) fun _ => h.keeps_flushed

/-! ## Roles, tags and credentials -/

theorem keeps_writeTags {cluster : String} {database : Option String} {tags : Table String}
    (free : ∀ id, Free D I (StoreKeys.tagSet id)) : Op.Keeps D I (TagIndex.write cluster database tags) := by
  have storing : Op.Keeps D I (TagIndex.enter cluster database tags) :=
    works_bind (keeps_ofRefusal _) fun _ => works_bind (keeps_put (free _)) fun _ => works_pure _
  refine h.keeps_loaded (keeps_refuse _) fun c => ?_
  cases database with
  | none => exact storing
  | some d => exact h.keeps_loaded keeps_refused fun _ => storing

theorem keeps_issueCredential {settings : Settings} {cluster database role displayName : String} :
    Op.Keeps D I (Credentials.issueCredential settings cluster database role displayName) := by
  refine h.keeps_loaded (keeps_refuse _) fun c => keeps_unless ?_
  refine h.keeps_loaded (keeps_refuse _) fun d => keeps_unless ?_
  refine h.keeps_loaded (keeps_refuse _) fun role => ?_
  have drawing {c : Call} (quiet : c.quiet) : Op.Keeps D I (liftM (Program.call c .done)) :=
    h.keeps_lift (Program.only_call quiet)
  refine works_bind (drawing rfl) fun _ => works_bind (drawing rfl) fun _ => works_bind (drawing rfl) fun _ => ?_
  refine works_bind (Connections.works_startManagement h.toil fun key _ => h.get key) fun t => ?_
  refine works_bind (works_toil h.toil (Fleet.calls_runEach (fun _ => rfl) _)) fun ran => ?_
  cases ran with
  | error e => exact works_bind (works_toil h.toil (Fleet.calls_rollbackQuietly rfl)) fun _ => works_throw trivial
  | ok u =>
    refine works_bind (works_ofSql (h.toil.commit t)) fun _ => ?_
    exact works_bind (works_toil h.toil (Program.only_call rfl)) fun _ => works_pure _

theorem keeps_renewCredential {settings : Settings} {secret : LeaseSecret} {increment : Span} {issued : Instant} :
    Op.Keeps D I (Credentials.renewCredential settings secret increment issued) := by
  refine h.keeps_loaded (keeps_refuse _) fun role => ?_
  refine h.keeps_loaded (keeps_refuse _) fun c => keeps_unless ?_
  refine h.keeps_loaded (keeps_refuse _) fun d => keeps_unless ?_
  refine works_bind (h.keeps_lift (Program.only_call rfl)) fun now => ?_
  dsimp only
  split
  · refine works_bind ?_ fun _ => ?_
    · exact Connections.works_onManagement (fun key _ => h.get key) fun _ => h.toil.execute _ _
    · exact works_bind (works_toil h.toil (Program.only_call rfl)) fun _ => works_pure _
  · exact works_pure _

theorem keeps_revokeCredential {secret : LeaseSecret} : Op.Keeps D I (Credentials.revokeCredential secret) := by
  refine works_bind (h.keeps_quiet Credentials.only_revocationPlan) fun plan => ?_
  refine h.keeps_loaded (keeps_refuse _) fun c => h.keeps_loaded (keeps_refuse _) fun d => ?_
  have counting (warnings : List Warning) : Op.Keeps D I (Credentials.countRevoked plan.warnings warnings) :=
    works_bind (works_toil h.toil (Program.only_call rfl)) fun _ => works_pure _
  dsimp only
  split
  · refine works_bind (h.use (.plain ..) fun conn => ?_) counting
    exact only_bind (only_ofSql (Program.only_call rfl)) fun t => Credentials.calls_revokeWithin (fun _ => rfl) rfl
  · refine works_bind (Connections.works_startManagement h.toil fun key _ => h.get key) fun t => ?_
    exact works_bind (Credentials.works_revokeWithin h.toil) counting

end Habit

end LeaseBroker
