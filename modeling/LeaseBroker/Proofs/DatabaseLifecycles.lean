import LeaseBroker.Proofs.ClusterLifecycles

/-!
The life of the record of a database. It comes with a registration where there
is none, is marked by a deletion and erased by a purge once it is marked. It may
outlive its cluster, and then a clone that takes the name of the cluster writes
over it what it copies from the source (`DatabaseMove.copies`): there is no
other way to change an owner or to bring back what was deleted.
-/
namespace LeaseBroker

open Op
open Surroundings (alone lucky)

variable {i : Nat} {s t : Surroundings}

/-! ## What is copied -/

namespace Replicas

variable {source target : String} {inheritDeleted : Bool} {values : Table String}

/-- What a clone may leave under the key of a database: what was there, or a copy of that of its source, if that is active
    or deleted ones are inherited. -/
def Copied (source target : String) (inheritDeleted : Bool) (values : Table String) (name : String)
    (left : Option String) : Prop :=
  left = values.get? (StoreKeys.database target name) ∨
    ∃ d : DatabaseRecord, Loads DatabaseRecord.decode values (StoreKeys.database source name) (some d) ∧
      (d.disabled = false ∨ inheritDeleted = true) ∧ left = some ({ d with cluster := target } : DatabaseRecord).encode

/-- What the store holds while databases are copied: those of the source as they were, and some copies. -/
structure Copying (source target : String) (inheritDeleted : Bool) (values now : Table String) : Prop where
  kept : ∀ name, now.get? (StoreKeys.database source name) = values.get? (StoreKeys.database source name)
  copied : ∀ name, Copied source target inheritDeleted values name (now.get? (StoreKeys.database target name))

theorem Copying.start {now : Table String}
    (same : ∀ c name, now.get? (StoreKeys.database c name) = values.get? (StoreKeys.database c name)) :
    Copying source target inheritDeleted values now :=
  ⟨same source, fun name => .inl (same target name)⟩

section
variable (bare : '/' ∉ source.toList) (bare' : '/' ∉ target.toList) (other : source ≠ target)
include bare bare' other

theorem Copying.put {now : Table String} {name : String} {d : DatabaseRecord}
    (copying : Copying source target inheritDeleted values now)
    (loads : Loads DatabaseRecord.decode now (StoreKeys.database source name) (some d))
    (chosen : d.disabled = false ∨ inheritDeleted = true) :
    Copying source target inheritDeleted values
      (now.insert (StoreKeys.database target name) ({ d with cluster := target } : DatabaseRecord).encode) := by
  constructor
  · intro n
    have apart : StoreKeys.database source n ≠ StoreKeys.database target name := fun same =>
      other (StoreKeys.database_injective_of_bare bare' bare same).1
    rw [Table.get?_insert_of_ne _ _ apart]
    exact copying.kept n
  · intro n
    by_cases own : n = name
    · subst own
      rw [Table.get?_insert_self]
      refine .inr ⟨d, ?_, chosen, rfl⟩
      rwa [Loads, ← copying.kept]
    · have apart : StoreKeys.database target n ≠ StoreKeys.database target name := fun same =>
        own (StoreKeys.database_injective_of_bare bare' bare' same).2
      rw [Table.get?_insert_of_ne _ _ apart]
      exact copying.copied n

theorem wp_copyDatabase {name : String} (copying : Copying source target inheritDeleted values s.values) :
    Program.wp (alone i) (fun _ t => Copying source target inheritDeleted values t.values)
      (copyDatabase source target inheritDeleted name) s := by
  have reading : Op.wp (alone i)
      (fun d? t => Copying source target inheritDeleted values t.values ∧
        Loads DatabaseRecord.decode t.values (StoreKeys.database source name) d?)
      (fun _ t => Copying source target inheritDeleted values t.values) (loadDatabase source name) s := by
    refine wp_mono wp_loadRecord (fun d? t read => ?_) fun e t failed => ?_
    · rw [read.1.values]
      exact ⟨copying, read.2⟩
    · rw [failed.1.values]
      exact copying
  refine Program.wp_seq reading fun loaded t read => ?_
  rcases loaded with e | _ | d
  · exact read
  · exact read.1
  · obtain ⟨copying, loads⟩ := read
    dsimp only
    cases skipped : d.disabled && !inheritDeleted with
    | true => exact copying
    | false =>
      have chosen : d.disabled = false ∨ inheritDeleted = true := by
        cases marked : d.disabled with
        | false => exact .inl rfl
        | true => exact .inr (by simpa [marked] using skipped)
      have saving : Op.wp (alone i) (fun _ u => Copying source target inheritDeleted values u.values)
          (fun _ u => Copying source target inheritDeleted values u.values)
          (saveDatabase target name { d with cluster := target }) t := by
        refine (wp_ofStore _).2 (Surroundings.alone_iff.2 fun stored _ => ?_)
        cases stored with
        | error e => exact copying
        | ok done => exact copying.put bare bare' other loads chosen
      refine Program.wp_seq saving fun stored u copying => ?_
      cases stored <;> exact copying

theorem wp_copyEach_copying {names : List String} (copying : Copying source target inheritDeleted values s.values) :
    Program.wp (alone i) (fun _ t => Copying source target inheritDeleted values t.values)
      (copyEach source target inheritDeleted names) s := by
  induction names generalizing s with
  | nil => exact copying
  | cons name names ih =>
    refine Program.wp_seq (wp_copyDatabase bare bare' other copying) fun _ t copying => ?_
    exact Program.wp_seq (ih copying) fun _ _ copying => copying

theorem wp_copyDatabases_copying (copying : Copying source target inheritDeleted values s.values) :
    Program.wp (alone i) (fun _ t => Copying source target inheritDeleted values t.values)
      (copyDatabases source target inheritDeleted) s := by
  refine (Program.wp_bind ..).2 (Surroundings.alone_iff.2 fun listed _ => ?_)
  cases listed with
  | error e => exact copying
  | ok entries => exact wp_copyEach_copying bare bare' other copying

end

/-- A clone that succeeds leaves copies under the keys of its databases, or what was there. -/
theorem wp_cloneCluster_copied {request : CloneRequest} (named : Names.isName source) :
    Op.wp (alone i)
      (fun _ t => ∀ name, Copied source request.target request.inheritDeleted s.values name
        (t.values.get? (StoreKeys.database request.target name)))
      (fun _ _ => True) (cloneCluster source request) s := by
  refine wp_seq wp_checkClone (fun record t checked => ?_) fun _ _ _ => trivial
  obtain ⟨same, ⟨named', free⟩, c, port, cloned, rfl⟩ := checked
  have bare := Names.slash_not_mem named
  have bare' := Names.slash_not_mem named'
  have other : source ≠ request.target := by
    rintro rfl
    obtain ⟨text, found, -⟩ := cloned.loads
    cases free.symm.trans found
  have working {α : Type} {p : Op α} {u : Surroundings} (works : Op.Works (alone i) (Holding s.values) Fatal p)
      (same : u.values = s.values) :
      Op.wp (alone i) (fun _ v => v.values = s.values) (fun _ _ => True) p u :=
    wp_mono (works u same) (fun _ _ same => same) fun _ _ _ => trivial
  refine wp_seq (working (works_tryManagement labour_alone) same.values) (fun _ t same => ?_)
    fun _ _ h => h
  refine wp_seq (working (works_inContext labour_alone.toil (Connections.works_openUncached labour_alone)) same)
    (fun root t same => ?_) fun _ _ h => h
  refine wp_seq (working (works_andAlways labour_alone (works_rotateBoth labour_alone.toil)
    Connections.only_closeQuietly) same) (fun passwords t same => ?_) fun _ _ h => h
  refine (wp_bind_inContext ..).2 ((wp_ofStore _).2 (Surroundings.alone_iff.2 fun stored _ => ?_))
  cases stored with
  | error e => trivial
  | ok done =>
    refine wp_seq_lift (wp_copyDatabases_copying bare bare' other (.start fun c name => ?_))
      fun tallied u copying => copying.copied
    have apart := (StoreKeys.cluster_ne_database bare' c name).symm
    exact (Table.get?_insert_of_ne _ _ apart).trans (by rw [same])

/-! ### Copies that can be made -/

/-- An active database can be copied. -/
theorem wp_lucky_copyDatabase {name : String} {d : DatabaseRecord}
    (loads : Loads DatabaseRecord.decode s.values (StoreKeys.database source name) (some d)) (active : d.disabled = false) :
    Program.wp (lucky i)
      (fun _ t => t.values =
        s.values.insert (StoreKeys.database target name) ({ d with cluster := target } : DatabaseRecord).encode)
      (copyDatabase source target inheritDeleted name) s := by
  have reading : Op.wp (lucky i) (fun d? t => d? = some d ∧ t.values = s.values) (fun _ _ => False)
      (loadDatabase source name) s := by
    have loading : Op.wp (lucky i) (fun d? t => d? = some d ∧ t.values = s.values) (fun _ _ => False)
        (loadDatabase source name >>= pure) s := wp_lucky_load loads fun _ same => ⟨rfl, same⟩
    rwa [bind_pure] at loading
  refine Program.wp_seq reading fun loaded t read => ?_
  cases loaded with
  | error e => exact read.elim
  | ok d? =>
    obtain ⟨rfl, same⟩ := read
    dsimp only
    rw [active, ← same]
    exact Surroundings.lucky_iff.2 ⟨.ok (), trivial, rfl⟩

section
variable (bare : '/' ∉ source.toList) (bare' : '/' ∉ target.toList) (other : source ≠ target)
include bare bare' other

/-- An active database can be copied with all that are listed. -/
theorem wp_lucky_copyEach {names : List String} {name : String} {d : DatabaseRecord} (listed : name ∈ names)
    (loads : Loads DatabaseRecord.decode s.values (StoreKeys.database source name) (some d)) (active : d.disabled = false) :
    Program.wp (lucky i)
      (fun _ t => t.values.get? (StoreKeys.database target name) =
        some ({ d with cluster := target } : DatabaseRecord).encode)
      (copyEach source target inheritDeleted names) s := by
  induction names generalizing s with
  | nil => cases listed
  | cons first names ih =>
    refine (Program.wp_bind ..).2 ?_
    by_cases own : name = first
    · subst own
      refine Program.wp_mono (fun _ t stored => ?_) (wp_lucky_copyDatabase loads active)
      have apart : StoreKeys.database source name ≠ StoreKeys.database target name := fun same =>
        other (StoreKeys.database_injective_of_bare bare' bare same).1
      -- What comes later can only copy the same once more.
      have rest : Program.wp (alone i) (fun _ u => Copying source target inheritDeleted t.values u.values)
          (copyEach source target inheritDeleted names) t := wp_copyEach_copying bare bare' other (.start fun _ _ => rfl)
      refine Program.wp_seq (Surroundings.wp_lucky_of_alone rest) fun _ u copying => ?_
      rcases copying.copied name with same | ⟨d', loads', -, left⟩
      · rw [Program.wp_pure, same, stored]
        exact Table.get?_insert_self ..
      · rw [Loads, stored, Table.get?_insert_of_ne _ _ apart] at loads'
        obtain rfl := loads_unique loads loads'
        exact left
    · have later : name ∈ names := (List.mem_cons.1 listed).resolve_left own
      have copied : Program.wp (alone i) (fun _ t => Copying source target inheritDeleted s.values t.values)
          (copyDatabase source target inheritDeleted first) s := wp_copyDatabase bare bare' other (.start fun _ _ => rfl)
      refine Program.wp_mono (fun _ t copying => ?_) (Surroundings.wp_lucky_of_alone copied)
      refine Program.wp_seq (ih later ?_) fun _ _ left => left
      rwa [Loads, copying.kept]

theorem wp_lucky_copyDatabases {name : String} {d : DatabaseRecord} (named : '/' ∉ name.toList)
    (loads : Loads DatabaseRecord.decode s.values (StoreKeys.database source name) (some d)) (active : d.disabled = false) :
    Program.wp (lucky i)
      (fun _ t => t.values.get? (StoreKeys.database target name) =
        some ({ d with cluster := target } : DatabaseRecord).encode)
      (copyDatabases source target inheritDeleted) s := by
  refine (Program.wp_bind ..).2 (Surroundings.lucky_iff.2 ⟨.ok _, Surroundings.gives_self _, ?_⟩)
  have listed : name ∈ StoreKeys.leaves (MemoryStore.children s.values (StoreKeys.databases source)) :=
    MemoryStore.mem_leaves_children_iff.2 ⟨named, loads.choose, loads.choose_spec.1⟩
  exact wp_lucky_copyEach bare bare' other listed loads active

end

/-- A clone can be made that has a copy of an active database. -/
theorem wp_lucky_cloneCluster {request : CloneRequest} {c : ClusterRecord} {port : UInt16} {name : String}
    {d : DatabaseRecord} (named : Names.isName source) (named' : Names.isName request.target) (bare : '/' ∉ name.toList)
    (hosted : request.host.isEmpty = false) (cloned : Source source request s.values c port)
    (free : s.values.get? (StoreKeys.cluster request.target) = none)
    (loads : Loads DatabaseRecord.decode s.values (StoreKeys.database source name) (some d)) (active : d.disabled = false) :
    Op.wp (lucky i)
      (fun _ t => t.values.get? (StoreKeys.database request.target name) =
        some ({ d with cluster := request.target } : DatabaseRecord).encode)
      (fun _ _ => False) (cloneCluster source request) s := by
  have other : source ≠ request.target := by
    rintro rfl
    obtain ⟨text, found, -⟩ := cloned.loads
    cases free.symm.trans found
  have named'' : request.target.isEmpty = false := by
    refine Bool.eq_false_iff.2 fun empty => ?_
    rw [String.isEmpty_iff.1 empty] at named'
    cases Names.not_isName_empty.symm.trans named'
  refine (wp_bind ..).2 ?_
  unfold checkClone
  rw [hosted, cloned.ported]
  refine wp_lucky_load cloned.loads fun t same => ?_
  dsimp only
  rw [cloned.active, named'']
  have vacant : Loads ClusterRecord.decode t.values (StoreKeys.cluster request.target) none := by rwa [Loads, same]
  refine wp_passed (Command.check_of_isName named') (wp_lucky_load vacant fun u same' => ?_)
  refine wp_lucky_work (works_tryManagement labour_lucky) (same'.trans same) fun warnings u same => ?_
  refine wp_lucky_work (works_inContext labour_lucky.toil (Connections.works_openUncached labour_lucky)) same
    fun root u same => ?_
  refine wp_lucky_work (works_andAlways labour_lucky (works_rotateBoth labour_lucky.toil) Connections.only_closeQuietly) same
    fun passwords u same => ?_
  have still : Still (· ≠ StoreKeys.cluster request.target) s.values u := Still.of_values (fun _ _ => rfl) same
  refine wp_seq_inContext (wp_lucky_put (fun differs => differs rfl) still)
    (fun _ v written => ?_) fun _ _ => False.elim
  refine (wp_bind_lift ..).2 (wp_lucky_copyDatabases (Names.slash_not_mem named) (Names.slash_not_mem named') other
    bare ?_ active)
  rwa [Loads, written.2 _ (StoreKeys.cluster_ne_database (Names.slash_not_mem named') source name).symm]

end Replicas

/-! ## How a record changes -/

variable {cluster name : String}

/-- How a command may change the record of a database, by what it was before, if there was one, and what it is after. -/
inductive DatabaseMove (s : Surroundings) (cluster name : String) :
    Command → Option DatabaseRecord → Option DatabaseRecord → Prop
  | registers {request : DatabaseRequest} {owner : String} (within : ActiveCluster s.values cluster)
      (eligible : Fleet.Eligible name request.objectsOwner owner) :
      DatabaseMove s cluster name (.registerDatabase cluster name request) none
        (some { cluster, database := name, objectsOwner := owner, disabled := false })
  | deletes {d : DatabaseRecord} (within : ActiveCluster s.values cluster) (active : d.disabled = false) :
      DatabaseMove s cluster name (.deleteDatabase cluster name) (some d) (some { d with disabled := true })
  | purges {d : DatabaseRecord} (deleted : d.disabled = true) :
      DatabaseMove s cluster name (.purgeDatabase cluster name) (some d) none
  | copies {source : String} {request : CloneRequest} {before : Option DatabaseRecord} {d : DatabaseRecord}
      (own : request.target = cluster) (vacant : s.values.get? (StoreKeys.cluster cluster) = none)
      (copied : Loads DatabaseRecord.decode s.values (StoreKeys.database source name) (some d))
      (chosen : d.disabled = false ∨ request.inheritDeleted = true) :
      DatabaseMove s cluster name (.cloneCluster source request) before (some { d with cluster := cluster })

/-- The record of a database before and after, if there is one. -/
def DatabaseTurns (s t : Surroundings) (cluster name : String) (before after : Option DatabaseRecord) : Prop :=
  Loads DatabaseRecord.decode s.values (StoreKeys.database cluster name) before ∧
    Loads DatabaseRecord.decode t.values (StoreKeys.database cluster name) after

theorem loads_encoded_database {values : Table String} {d : DatabaseRecord}
    (left : values.get? (StoreKeys.database cluster name) = some d.encode) :
    Loads DatabaseRecord.decode values (StoreKeys.database cluster name) (some d) := ⟨_, left, d.decode_encode⟩

/-- In a store that is well filed what lies under the key of a database can be read. -/
theorem WellFiled.readable_database {values : Table String} (filed : WellFiled values) (cluster name : String) :
    ∃ d?, Loads DatabaseRecord.decode values (StoreKeys.database cluster name) d? := by
  refine filed.readable fun text _ filing => ?_
  obtain ⟨d, rfl⟩ := filing.database_text
  exact ⟨d, d.decode_encode⟩

/-- The record of a database lies only under the key of a cluster with a name. -/
theorem WellFiled.named_database {values : Table String} (filed : WellFiled values) {d : DatabaseRecord}
    (loads : Loads DatabaseRecord.decode values (StoreKeys.database cluster name) (some d)) :
    Names.isName cluster ∧ Names.isName name := by
  obtain ⟨text, found, decoded⟩ := loads
  obtain ⟨valid, valid', -⟩ := (filed _ _ found).database_fit decoded
  exact ⟨valid, valid'⟩

namespace Command

variable {command : Command} {reply : Except BrokerError (Option Credential)} {a : Option Credential}

theorem registers_database_move {request : DatabaseRequest}
    (run : Surroundings.Runs i (registerDatabase cluster name request).op.run s (.ok a) t) :
    ∃ before after, DatabaseTurns s t cluster name before after ∧
      DatabaseMove s cluster name (registerDatabase cluster name request) before after := by
  obtain ⟨results, decided, left⟩ :=
    of_wp_op run (wp_unkept.2 ((Fleet.registerDatabaseChange cluster name request).wp_decided rfl))
  have within : ActiveCluster s.values cluster := Fleet.active_of_enlisting decided
  obtain ⟨-, -, free, rfl⟩ := Fleet.decideEnlisting_eq_write decided
  obtain ⟨owner, eligible, left⟩ := left
  exact ⟨none, _, ⟨free, loads_encoded_database left⟩, .registers within eligible⟩

theorem deletes_database_move (run : Surroundings.Runs i (deleteDatabase cluster name).op.run s (.ok a) t) :
    ∃ before after, DatabaseTurns s t cluster name before after ∧
      DatabaseMove s cluster name (deleteDatabase cluster name) before after := by
  obtain ⟨results, decided, left⟩ := of_wp_op run (wp_unkept.2 ((Fleet.deleteDatabaseChange cluster name).wp_decided rfl))
  have within : ActiveCluster s.values cluster := Fleet.active_of_delisting decided
  obtain ⟨d, loads, active, rfl⟩ := Fleet.decideDelisting_eq_write decided
  exact ⟨some d, _, ⟨loads, loads_encoded_database left⟩, .deletes within active⟩

/-- The record of a database stays as it is, unless a command succeeds that is about it or clones onto its cluster. -/
theorem database_moves (filed : WellFiled s.values) (named : Names.isName cluster) (name : String)
    (run : Surroundings.Runs i command.op.run s reply t) :
    t.values.get? (StoreKeys.database cluster name) = s.values.get? (StoreKeys.database cluster name) ∨
      (∃ a, reply = .ok a) ∧ ∃ before after, DatabaseTurns s t cluster name before after ∧
        DatabaseMove s cluster name command before after := by
  rcases alters run (StoreKeys.database cluster name) with same | ⟨⟨a, done⟩, alters⟩
  · exact .inl same
  cases done
  rcases database_altered name filed named run with same | ⟨-, own⟩
  · exact .inl same
  cases own with
  | registers request => exact .inr ⟨⟨a, rfl⟩, registers_database_move run⟩
  | deletes => exact .inr ⟨⟨a, rfl⟩, deletes_database_move run⟩
  | purges =>
    obtain ⟨-, gone⟩ := alters
    obtain ⟨d, loads, deleted⟩ := purged_database run
    exact .inr ⟨⟨a, rfl⟩, some d, none, ⟨loads, gone⟩, .purges deleted⟩
  | copies source request own =>
    subst own
    have vacant := (checked_of_cloned run).2
    obtain ⟨c, port, -, -, cloned, -⟩ := of_wp_op (Q := fun t => Replicas.Enrolled i source request s t) run
      (wp_unkept.2 Replicas.wp_cloneCluster_drawn)
    have copied := of_wp_op (Q := fun t => ∀ name, Replicas.Copied source request.target request.inheritDeleted s.values name
      (t.values.get? (StoreKeys.database request.target name))) run
      (wp_unkept.2 (Replicas.wp_cloneCluster_copied (filed.named_cluster cloned.loads)))
    rcases copied name with same | ⟨d, loads, chosen, left⟩
    · exact .inl same
    · obtain ⟨before, found⟩ := filed.readable_database request.target name
      exact .inr ⟨⟨a, rfl⟩, before, _, ⟨found, loads_encoded_database left⟩, .copies rfl vacant loads chosen⟩

end Command

/-! ## Calls of a host -/

namespace HostCall

variable {call : HostCall} {result : Except BrokerError Response}

/-- Whatever a host calls, the record of a database stays as it is, unless the call succeeds and asks for a command that
    moves it on. Where the name of its cluster is none there never is the record of a database. -/
theorem database_lifecycle (reached : Reached s) (run : Surroundings.Runs i call.program s result t)
    (cluster name : String) :
    (Names.isName cluster →
      t.values.get? (StoreKeys.database cluster name) = s.values.get? (StoreKeys.database cluster name) ∨
      (∃ r, result = .ok r ∧ r.error = none) ∧ ∃ command, call.asked = .ok command ∧
        ∃ before after, DatabaseTurns s t cluster name before after ∧ DatabaseMove s cluster name command before after) ∧
    (¬Names.isName cluster → ∀ before after, DatabaseTurns s t cluster name before after → before = none ∧ after = none) := by
  constructor
  · intro named
    refine unmoved_or_asked run (fun same => by rw [same]) fun command reply ran => ?_
    exact Command.database_moves reached.wellFiled named name ran
  · rintro unnamed (_ | c) (_ | d) ⟨loads, loads'⟩
    · exact ⟨rfl, rfl⟩
    · exact absurd ((reached.call run).wellFiled.named_database loads').1 unnamed
    · exact absurd (reached.wellFiled.named_database loads).1 unnamed
    · exact absurd (reached.wellFiled.named_database loads).1 unnamed

end HostCall

/-! ## A clone that overwrites -/

namespace HostCall

theorem asks_registerDatabase (named : Names.isName cluster) (named' : Names.isName name) :
    (about .update ["cluster", cluster, name] .empty).asked = .ok (.registerDatabase cluster name {}) :=
  (Router.asked_of_route {} (.database cluster name) rfl (by simp [fine_name named, fine_name named'])
    (by simp [Router.namesValid, named, named']) rfl).trans rfl

theorem asks_deleteDatabase (named : Names.isName cluster) (named' : Names.isName name) :
    (about .delete ["cluster", cluster, name] .empty).asked = .ok (.deleteDatabase cluster name) :=
  (Router.asked_of_route {} (.database cluster name) rfl (by simp [fine_name named, fine_name named'])
    (by simp [Router.namesValid, named, named']) rfl).trans rfl

theorem asks_deleteCluster (named : Names.isName cluster) :
    (about .delete ["cluster", cluster] .empty).asked = .ok (.deleteCluster cluster) :=
  (Router.asked_of_route {} (.cluster cluster) rfl (by simp [fine_name named])
    (by simp [Router.namesValid, named]) rfl).trans rfl

theorem asks_purgeCluster (named : Names.isName cluster) :
    (about .delete ["gc", "cluster", cluster] .empty).asked = .ok (.purgeCluster cluster) :=
  (Router.asked_of_route {} (.deletedCluster cluster) rfl (by simp [fine_name named])
    (by simp [Router.namesValid, named]) rfl).trans rfl

/-- A cluster and a database of it can be registered where there is neither. -/
theorem Reached.enlisted (reached : Reached s) (named : Names.isName cluster) (named' : Names.isName name)
    (free : s.values.get? (StoreKeys.cluster cluster) = none)
    (free' : s.values.get? (StoreKeys.database cluster name) = none) :
    ∃ t c d, Reached t ∧ Loads ClusterRecord.decode t.values (StoreKeys.cluster cluster) (some c) ∧ c.disabled = false ∧
      Loads DatabaseRecord.decode t.values (StoreKeys.database cluster name) (some d) ∧ d.disabled = false ∧
      ∀ key, key ≠ StoreKeys.cluster cluster → key ≠ StoreKeys.database cluster name →
        t.values.get? key = s.values.get? key := by
  have apart := StoreKeys.cluster_ne_own_database cluster name
  obtain ⟨record, fine, enabled⟩ : ∃ record, Session.exampleRequest.validate = .ok record ∧ record.disabled = false :=
    ⟨_, rfl, rfl⟩
  obtain ⟨u, c, run, stored, active, -⟩ := Command.runs_registerCluster (i := 0) named fine ⟨none, free, rfl⟩
  have kept {key : String} (other : key ≠ StoreKeys.cluster cluster) : u.values.get? key = s.values.get? key :=
    Command.kept_beside run (fun _ altered => altered.1) other
  obtain ⟨-, -, reached⟩ := reached.told (exampleRegistration_asks named) run
  obtain ⟨t, d, run', stored', active', still⟩ := Command.runs_registerDatabase (i := 0) {} named named' stored
    (active.trans enabled) ((kept apart.symm).trans free')
  obtain ⟨-, -, reached⟩ := reached.told (asks_registerDatabase named named') run'
  refine ⟨t, c, d, reached, ?_, active.trans enabled, stored', active', fun key other other' => ?_⟩
  · rwa [Loads, still _ apart]
  · exact (still _ other').trans (kept other)

/-- A database that was deleted can outlive its cluster. -/
theorem Reached.outlived (reached : Reached s) (named : Names.isName cluster) (named' : Names.isName name)
    (free : s.values.get? (StoreKeys.cluster cluster) = none)
    (free' : s.values.get? (StoreKeys.database cluster name) = none) :
    ∃ t d, Reached t ∧ t.values.get? (StoreKeys.cluster cluster) = none ∧
      Loads DatabaseRecord.decode t.values (StoreKeys.database cluster name) (some d) ∧ d.disabled = true ∧
      ∀ key, key ≠ StoreKeys.cluster cluster → key ≠ StoreKeys.database cluster name →
        t.values.get? key = s.values.get? key := by
  have apart := StoreKeys.cluster_ne_own_database cluster name
  obtain ⟨s₁, c, d, reached, stored, active, stored', active', kept⟩ := reached.enlisted named named' free free'
  obtain ⟨s₂, run₂, loads₂⟩ := Command.runs_deleteDatabase (i := 0) stored active stored' active'
  have kept₂ {key : String} (other : key ≠ StoreKeys.database cluster name) : s₂.values.get? key = s₁.values.get? key :=
    Command.kept_beside run₂ (fun _ altered => altered.1) other
  obtain ⟨-, -, reached⟩ := reached.told (asks_deleteDatabase named named') run₂
  obtain ⟨s₃, run₃, left⟩ := Command.runs_deleteCluster (i := 0) (by rwa [Loads, kept₂ apart]) active
  have kept₃ {key : String} (other : key ≠ StoreKeys.cluster cluster) : s₃.values.get? key = s₂.values.get? key :=
    Command.kept_beside run₃ (fun _ altered => altered.1) other
  obtain ⟨-, -, reached⟩ := reached.told (asks_deleteCluster named) run₃
  obtain ⟨t, run₄, gone⟩ := Command.runs_purgeCluster (i := 0) (loads_encoded left) rfl
  have kept₄ {key : String} (other : key ≠ StoreKeys.cluster cluster) : t.values.get? key = s₃.values.get? key :=
    Command.kept_beside run₄ (fun _ altered => altered.1) other
  obtain ⟨-, -, reached⟩ := reached.told (asks_purgeCluster named) run₄
  refine ⟨t, { d with disabled := true }, reached, gone, ?_, rfl, fun key other other' => ?_⟩
  · rwa [Loads, kept₄ apart.symm, kept₃ apart.symm]
  · exact (kept₄ other).trans ((kept₃ other).trans ((kept₂ other').trans (kept key other other')))

def exampleClone (source : String) : HostCall :=
  about .update ["clone", source] (Table.ofList [("target", .string "copy"), ("host", .string "replica")])

theorem exampleClone_asks {source : String} (named : Names.isName source) :
    (exampleClone source).asked = .ok (.cloneCluster source { target := "copy", host := "replica" }) :=
  (Router.asked_of_route {} (.clone source) rfl (by simp [fine_name named]) (by simp [Router.namesValid, named])
    rfl).trans rfl

/-- A clone that takes the name of a purged cluster brings back a database that was deleted there. -/
theorem clone_revives_database : ∃ s t told before after, Reached s ∧
    Surroundings.Runs 0 (exampleClone "main").program s told t ∧
    DatabaseTurns s t "copy" "app" (some before) (some after) ∧
      DatabaseMove s "copy" "app" (.cloneCluster "main" { target := "copy", host := "replica" }) (some before) (some after) ∧
      before.disabled = true ∧ after.disabled = false := by
  have main : Names.isName "main" := by decide +kernel
  have copy : Names.isName "copy" := by decide +kernel
  have app : Names.isName "app" := by decide +kernel
  have clusters : StoreKeys.cluster "main" ≠ StoreKeys.cluster "copy" := by decide
  have databases : StoreKeys.database "main" "app" ≠ StoreKeys.database "copy" "app" := by decide
  have kinds := StoreKeys.cluster_ne_database (Names.slash_not_mem copy) "main" "app"
  have kinds' := StoreKeys.cluster_ne_database (Names.slash_not_mem main) "copy" "app"
  obtain ⟨s₁, c, d, reached, stored, active, loads, active', kept₁⟩ := Reached.start.enlisted main app rfl rfl
  obtain ⟨s, before, reached, vacant, left, deleted, kept⟩ :=
    reached.outlived copy app (kept₁ _ clusters.symm kinds) (kept₁ _ kinds'.symm databases.symm)
  have stored : Loads ClusterRecord.decode s.values (StoreKeys.cluster "main") (some c) := by
    rwa [Loads, kept _ clusters kinds']
  have loads : Loads DatabaseRecord.decode s.values (StoreKeys.database "main" "app") (some d) := by
    rwa [Loads, kept _ kinds.symm databases]
  obtain ⟨t, run, copied⟩ := Command.runs_of_unkept (i := 0)
    (rfl : (Command.cloneCluster "main" { target := "copy", host := "replica" }).op = _)
    (Replicas.wp_lucky_cloneCluster main copy (Names.slash_not_mem app) rfl ⟨stored, active, rfl⟩ vacant loads active')
  obtain ⟨told, call, -⟩ := reached.told (exampleClone_asks main) run
  have loads' := loads_encoded_database copied
  rcases (database_lifecycle reached call "copy" "app").1 copy with same | ⟨-, command, asked, b, a, turns, moves⟩
  · rw [Loads, same] at loads'
    have marked := congrArg DatabaseRecord.disabled (loads_unique left loads')
    rw [deleted] at marked
    cases marked.trans active'
  · cases (exampleClone_asks main).symm.trans asked
    obtain rfl := loads_eq turns.1 left
    obtain rfl := loads_eq turns.2 loads'
    exact ⟨s, t, told, before, _, reached, call, turns, moves, deleted, active'⟩

end HostCall

end LeaseBroker
