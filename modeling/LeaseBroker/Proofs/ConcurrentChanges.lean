import LeaseBroker.Proofs.RecordWriters

/-!
What two operations come to that write the same record at the same time. Where
a write falls between the last reading and the writing of the other, the later
one undoes the earlier: both of two registrations of a database may succeed,
which no order of the two allows. Where none does, or only one that a new
registration takes no heed of, the two come to the same as one after the other.
-/
namespace LeaseBroker

open Surroundings (alone lucky)

/-- What a record is kept of. -/
inductive Subject where
  | cluster (name : String)
  | database (cluster name : String)

namespace Subject

def key : Subject → String
  | .cluster name => StoreKeys.cluster name
  | .database c name => StoreKeys.database c name

/-- The keys that a change of the subject leaves alone. -/
def Aside : Subject → String → Prop
  | .cluster name => Beyond name
  | .database c name => (· ≠ StoreKeys.database c name)

end Subject

/-- An operation that writes the record of a subject. -/
inductive RecordTask : Subject → Type where
  | registerCluster {name : String} (request : ClusterRequest) : RecordTask (.cluster name)
  | deleteCluster {name : String} : RecordTask (.cluster name)
  | purgeCluster {name : String} : RecordTask (.cluster name)
  /-- Clones a cluster into the subject. -/
  | cloneCluster {name : String} (source : String) (valid : Names.isName source) (host : String) (port : Int)
      (inheritDeleted : Bool) : RecordTask (.cluster name)
  | registerDatabase {cluster name : String} (request : DatabaseRequest) : RecordTask (.database cluster name)
  | deleteDatabase {cluster name : String} : RecordTask (.database cluster name)

namespace RecordTask

variable {subject : Subject}

def program : {subject : Subject} → RecordTask subject → Program Verdict
  | .cluster name, registerCluster request => (Fleet.registerCluster name request).verdict
  | .cluster name, deleteCluster => (Fleet.deleteCluster name).verdict
  | .cluster name, purgeCluster => (Reclaim.purgeCluster name).verdict
  | .cluster name, cloneCluster source _ host port inheritDeleted =>
    (Replicas.cloneCluster source { target := name, host, port, inheritDeleted }).verdict
  | .database cluster name, registerDatabase request => (Fleet.registerDatabase cluster name request).verdict
  | .database cluster name, deleteDatabase => (Fleet.deleteDatabase cluster name).verdict

/-- What may be left by another operation between reading and writing: a new registration of a cluster takes no heed
    of the record that it replaces, as long as that is not the record of a deleted one. -/
def tolerates : RecordTask subject → Option String → Prop
  | registerCluster _ => Fleet.Registrable
  | _ => fun _ => False

/-- The task as a change that keeps to a decision by the record. -/
def change : {subject : Subject} → RecordTask subject → RecordChange subject.key subject.Aside
  | .cluster name, registerCluster request => Fleet.registerClusterChange name request
  | .cluster name, deleteCluster => Fleet.deleteClusterChange name
  | .cluster name, purgeCluster => Reclaim.purgeClusterChange name
  | .cluster name, cloneCluster source valid host port inheritDeleted =>
    Replicas.cloneClusterChange source valid { target := name, host, port, inheritDeleted }
  | .database c name, registerDatabase request => Fleet.registerDatabaseChange c name request
  | .database c name, deleteDatabase => Fleet.deleteDatabaseChange c name

theorem change_program (task : RecordTask subject) : task.change.program = task.program := by cases task <;> rfl

theorem change_tolerates (task : RecordTask subject) : task.change.tolerates = task.tolerates := by cases task <;> rfl

/-- Two tasks, the first of caller 0 and the second of caller 1. -/
def pair (first second : RecordTask subject) (s : Surroundings) : Pool Verdict where
  shared := s
  tasks
    | 0 => first.program
    | 1 => second.program
    | _ => .done .failed

/-- What each of two tasks tolerates. -/
def tolerance (first second : RecordTask subject) (i : Nat) : Option String → Prop :=
  if i = 0 then first.tolerates else second.tolerates

/-- What each of two tasks does to the record. -/
def changes (first second : RecordTask subject) (i : Nat) : RecordChange subject.key subject.Aside :=
  if i = 0 then first.change else second.change

theorem changes_tolerates (first second : RecordTask subject) :
    (fun i => (changes first second i).tolerates) = tolerance first second := by
  funext i
  unfold changes tolerance
  by_cases own : i = 0
  · simp only [own, if_pos, change_tolerates]
  · simp only [own, if_false, change_tolerates]

/-- One after the other, in some order, the two tasks come to `v` and `w` and leave `left` as the record. -/
def Serial (first second : RecordTask subject) (s : Surroundings) (v w : Verdict) (left : Option String) : Prop :=
  (∃ t u, Surroundings.Runs 0 first.program s v t ∧ Surroundings.Runs 1 second.program t w u ∧
      u.values.get? subject.key = left) ∨
    ∃ t u, Surroundings.Runs 1 second.program s w t ∧ Surroundings.Runs 0 first.program t v u ∧
      u.values.get? subject.key = left

theorem pair_eq_pool (first second : RecordTask subject) (s : Surroundings) :
    pair first second s = RecordChange.pool (changes first second) s := by
  refine congrArg (Pool.mk s) (funext fun i => ?_)
  match i with
  | 0 => exact first.change_program.symm
  | 1 => exact second.change_program.symm
  | i + 2 => exact (if_neg (by omega)).symm

/-- Two operations that write one record come to the same as one after the other, with the same names and passwords
    made up, if no write of either falls between the last reading and the writing of the other, or only one that a
    new registration of a cluster tolerates. -/
theorem orderly_changes_serial (first second : RecordTask subject) (values : Table String) (broker : BrokerState)
    {q : Pool Verdict} {v w : Verdict} (run : Pool.Reaches (pair first second ⟨values, broker, []⟩) q)
    (orderly : Orderly (tolerance first second) subject.key q.shared.history) (ends : q.tasks 0 = .done v)
    (ends' : q.tasks 1 = .done w) :
    Serial first second ⟨values, broker, []⟩ v w (q.shared.values.get? subject.key) := by
  have ended : ∀ i ≤ 1, q.tasks i = .done (if i = 0 then v else w) := by
    rintro i two
    rcases (by omega : i = 0 ∨ i = 1) with rfl | rfl
    · exact ends
    · exact ends'
  rw [pair_eq_pool] at run
  rw [← changes_tolerates] at orderly
  obtain ⟨i, j, t, u, two, run, run', left⟩ :=
    RecordChange.serializable (changes first second) _ rfl run orderly ended
  rcases (by omega : i = 0 ∧ j = 1 ∨ i = 1 ∧ j = 0) with ⟨rfl, rfl⟩ | ⟨rfl, rfl⟩
  · refine .inl ⟨t, u, ?_, ?_, left⟩
    · rw [← change_program]
      exact run
    · rw [← change_program]
      exact run'
  · refine .inr ⟨t, u, ?_, ?_, left⟩
    · rw [← change_program]
      exact run
    · rw [← change_program]
      exact run'

/-! ## Two registrations of one database -/

/-- One after the other, only the first of two registrations of a database succeeds. -/
theorem not_serial_of_registrations {cluster name : String} {request request' : DatabaseRequest} {s : Surroundings}
    {left : Option String} :
    ¬Serial (registerDatabase request : RecordTask (.database cluster name)) (registerDatabase request') s .done .done
      left := by
  have once {r r' : DatabaseRequest} {i j : Nat} {t u : Surroundings}
      (run : Surroundings.Runs i (registerDatabase r : RecordTask (.database cluster name)).program s .done t)
      (run' : Surroundings.Runs j (registerDatabase r' : RecordTask (.database cluster name)).program t .done u) : False := by
    obtain ⟨results, decided, result⟩ := (Fleet.registerDatabaseChange cluster name r).decides_alone run
    obtain ⟨results', decided', -⟩ := (Fleet.registerDatabaseChange cluster name r').decides_alone run'
    obtain ⟨-, -, -, rfl⟩ := Fleet.decideEnlisting_eq_write decided
    rw [(Fleet.decideEnlisting_eq_write decided').2.2.1] at result
    exact Fleet.not_owned_none result
  rintro (⟨t, u, run, run', -⟩ | ⟨t, u, run, run', -⟩)
  · exact once run run'
  · exact once run run'

section Scripts
variable {cluster name : String} {c : ClusterRecord}

/-- A registration with an owner of a given name, for which no server is asked. -/
def enlist (cluster name owner : String) : RecordTask (.database cluster name) :=
  registerDatabase { DatabaseRequest.recordOnly with objectsOwner := owner }

def enlisted (cluster name owner : String) : String :=
  { cluster, database := name, objectsOwner := Octets.truncate owner Names.identifierLimit, disabled := false : DatabaseRecord }.encode

/-- A caller reads the record of the cluster. -/
def readsCluster (i : Nat) (cluster : String) (c : ClusterRecord) : Event :=
  ⟨i, .fetch (StoreKeys.cluster cluster), .ok (some c.encode)⟩

/-- A caller reads what is stored for the database. -/
def readsDatabase (i : Nat) (cluster name : String) (text? : Option String) : Event :=
  ⟨i, .fetch (StoreKeys.database cluster name), .ok text?⟩

/-- A caller stores the database with its owner. -/
def stores (i : Nat) (cluster name owner : String) : Event :=
  ⟨i, .put (StoreKeys.database cluster name) (enlisted cluster name owner), .ok ()⟩

theorem wp_scripted_enlist {owner : String} (valid : checkName "cluster" cluster = .ok ())
    (valid' : checkName "database" name = .ok ()) (active : c.disabled = false) (named : owner.isEmpty = false)
    {text? : Option String} {d? : Option DatabaseRecord} (means : Means DatabaseRecord.decode text? d?) {i : Nat}
    {Q : Verdict → List Event → Prop} {rest : List Event}
    (taken : d?.isSome → Q (.refused (.databaseTaken name cluster)) rest)
    (free : d? = none → ∃ rest', rest = stores i cluster name owner :: rest' ∧ Q .done rest') :
    Program.wp Pool.scripted Q (enlist cluster name owner).program
      (readsCluster i cluster c :: readsDatabase i cluster name text? :: rest) := by
  refine Op.wp_verdict.2 (Op.wp_passed valid (Op.wp_passed valid' (wp_load ⟨i, _, _, rfl, _, some c, rfl, ?_, ?_⟩)))
  · exact ⟨_, rfl, c.decode_encode⟩
  dsimp only
  rw [active]
  refine wp_load ⟨i, _, _, rfl, _, d?, rfl, means, ?_⟩
  cases d? with
  | some d => exact taken rfl
  | none =>
    obtain ⟨rest', rfl, ends⟩ := free rfl
    unfold Fleet.chooseOwner
    dsimp only
    rw [named]
    exact ⟨i, _, rest', rfl, ends⟩

end Scripts

open ClusterRecord (exampleRecord)
open CacheTask (exampleValues)

/-- Registrations of one database of the cluster `main` with different owners, from the time when it was not
    registered. -/
def rivals : Pool Verdict :=
  pair (enlist "main" "app" "first") (enlist "main" "app" "second") ⟨exampleValues, BrokerState.empty, []⟩

section
variable {i : Nat} {owner : String} {text? : Option String} {d? : Option DatabaseRecord} {Q : Verdict → List Event → Prop}
  {rest : List Event}

theorem wp_scripted_rival (named : owner.isEmpty = false) (means : Means DatabaseRecord.decode text? d?)
    (taken : d?.isSome → Q (.refused (.databaseTaken "app" "main")) rest)
    (free : d? = none → ∃ rest', rest = stores i "main" "app" owner :: rest' ∧ Q .done rest') :
    Program.wp Pool.scripted Q (enlist "main" "app" owner).program
      (readsCluster i "main" exampleRecord :: readsDatabase i "main" "app" text? :: rest) := by
  have passed (kind name : String) (valid : Names.isName name) : checkName kind name = .ok () := by
    simp [checkName, valid]
  exact wp_scripted_enlist (passed _ _ (by decide +kernel)) (passed _ _ (by decide +kernel)) rfl named means taken free

end

/-- What a script makes of the two rivals. -/
theorem rivals_reach (events : List Event) {v w : Verdict} (playable : Pool.Playable rivals.shared events)
    (first : Program.wp Pool.scripted (fun a rest => a = v ∧ rest = [])
      (enlist "main" "app" "first").program (events.filter (·.asker = 0)))
    (second : Program.wp Pool.scripted (fun a rest => a = w ∧ rest = [])
      (enlist "main" "app" "second").program (events.filter (·.asker = 1)))
    (two : ∀ e ∈ events, e.asker ≤ 1) :
    ∃ q, Pool.Reaches rivals q ∧ q.tasks 0 = .done v ∧ q.tasks 1 = .done w ∧
      q.shared = Pool.played rivals.shared events := by
  obtain ⟨q, run, ends, ends', -, reached⟩ :=
    Pool.reachesWithin_of_two playable (Pool.throughout_any _ _) first second (fun _ => ⟨.failed, rfl⟩) two
  exact ⟨q, run.reaches, ends, ends', reached⟩

theorem means_none : Means DatabaseRecord.decode none none := rfl

theorem means_enlisted (cluster name owner : String) :
    Means DatabaseRecord.decode (some (enlisted cluster name owner))
      (some ⟨cluster, name, Octets.truncate owner Names.identifierLimit, false⟩) :=
  ⟨_, rfl, DatabaseRecord.decode_encode _⟩

theorem example_cluster : exampleValues.get? (StoreKeys.cluster "main") = some exampleRecord.encode :=
  Table.get?_insert_self ..

theorem example_free : exampleValues.get? (StoreKeys.database "main" "app") = none :=
  Table.get?_insert_of_ne _ _ (StoreKeys.cluster_ne_own_database "main" "app").symm

/-- Both of two registrations of one database may succeed, and the later owner replaces the earlier one. In no order
    does this come of running one after the other. -/
theorem rival_registrations_both_succeed : ∃ q, Pool.Reaches rivals q ∧ q.tasks 0 = .done .done ∧ q.tasks 1 = .done .done ∧
    q.shared.values.get? (StoreKeys.database "main" "app") = some (enlisted "main" "app" "second") ∧
    ∀ left, ¬Serial (enlist "main" "app" "first") (enlist "main" "app" "second") rivals.shared .done .done
      left := by
  open Surroundings (allows_fetch) in
  obtain ⟨q, run, ends, ends', reached⟩ := rivals_reach
    [readsCluster 0 "main" exampleRecord, readsDatabase 0 "main" "app" none,
      readsCluster 1 "main" exampleRecord, readsDatabase 1 "main" "app" none,
      stores 0 "main" "app" "first", stores 1 "main" "app" "second"]
    ⟨allows_fetch example_cluster, allows_fetch example_free, allows_fetch example_cluster, allows_fetch example_free,
      trivial, trivial, trivial⟩
    (wp_scripted_rival rfl means_none nofun fun _ => ⟨_, rfl, rfl, rfl⟩)
    (wp_scripted_rival rfl means_none nofun fun _ => ⟨_, rfl, rfl, rfl⟩)
    (by decide)
  exact ⟨q, run, ends, ends', reached ▸ Table.get?_insert_self .., fun _ => not_serial_of_registrations⟩

/-- A registration that reads what the other one has written is refused, just as when it comes later. -/
theorem rival_refused_serial : ∃ q, Pool.Reaches rivals q ∧
    Orderly (tolerance (enlist "main" "app" "first") (enlist "main" "app" "second"))
      (StoreKeys.database "main" "app") q.shared.history ∧
    Serial (enlist "main" "app" "first") (enlist "main" "app" "second") rivals.shared .done
      (.refused (.databaseTaken "app" "main")) (some (enlisted "main" "app" "first")) := by
  open Surroundings (allows_fetch) in
  obtain ⟨q, run, ends, ends', reached⟩ := rivals_reach
    [readsCluster 0 "main" exampleRecord, readsCluster 1 "main" exampleRecord, readsDatabase 0 "main" "app" none,
      stores 0 "main" "app" "first", readsDatabase 1 "main" "app" (some (enlisted "main" "app" "first"))]
    ⟨allows_fetch example_cluster, allows_fetch example_cluster, allows_fetch example_free, trivial,
      allows_fetch (Table.get?_insert_self ..), trivial⟩
    (wp_scripted_rival rfl means_none nofun fun _ => ⟨_, rfl, rfl, rfl⟩)
    (wp_scripted_rival rfl (means_enlisted ..) (fun _ => ⟨rfl, rfl⟩) nofun)
    (by decide)
  have orderly : Orderly (tolerance (enlist "main" "app" "first") (enlist "main" "app" "second"))
      (StoreKeys.database "main" "app") q.shared.history := by
    rw [reached]
    have read : (readsDatabase 0 "main" "app" none).read? (StoreKeys.database "main" "app") = some none := by
      simp [readsDatabase, Event.read?]
    refine orderly_unless_left rfl ⟨fun _ => .inl ⟨rfl, Option.isSome_iff_exists.2 ⟨none, read⟩⟩, ?_⟩
    exact orderly_unless_left rfl (orderly_unless_left rfl (orderly_unless_left rfl trivial))
  have left : q.shared.values.get? (StoreKeys.database "main" "app") = some (enlisted "main" "app" "first") := by
    rw [reached]
    exact Table.get?_insert_self ..
  exact ⟨q, run, orderly, left ▸ orderly_changes_serial _ _ _ _ run orderly ends ends'⟩

end RecordTask

end LeaseBroker
