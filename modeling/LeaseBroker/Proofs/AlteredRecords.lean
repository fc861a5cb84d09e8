import LeaseBroker.Proofs.ConnectionUse
import LeaseBroker.Proofs.StoredRecords

/-!
Which commands alter the record of a cluster or of a database. From an empty
store only those do that name it (`OnCluster`, `OnDatabase`), and each says what
it found there or leaves; those that take it from others to use leave no
connection for it in the cache (`Command.evicted`).
-/
namespace LeaseBroker

open Op
open Surroundings (alone)

variable {α β : Type}

namespace Command

/-- The commands that alter the record of a cluster. -/
inductive OnCluster (name : String) : Command → Prop
  | registers (request : ClusterRequest) : OnCluster name (registerCluster name request)
  | deletes : OnCluster name (deleteCluster name)
  | purges : OnCluster name (purgeCluster name)
  | clones (source : String) (request : CloneRequest) (own : request.target = name) :
    OnCluster name (cloneCluster source request)

/-- The commands that alter the record of a database. -/
inductive OnDatabase (cluster name : String) : Command → Prop
  | registers (request : DatabaseRequest) : OnDatabase cluster name (registerDatabase cluster name request)
  | deletes : OnDatabase cluster name (deleteDatabase cluster name)
  | purges : OnDatabase cluster name (purgeDatabase cluster name)
  | copies (source : String) (request : CloneRequest) (own : request.target = cluster) :
    OnDatabase cluster name (cloneCluster source request)

/-- Which connections a command closes that succeeds. -/
def evicts? : Command → Option Eviction
  | registerCluster name _ | deleteCluster name | purgeCluster name => some (.cluster name)
  | deleteDatabase cluster name | purgeDatabase cluster name => some (.database cluster name)
  | shutDown => some .everything
  | _ => none

end Command

/-! ## What is cached no longer -/

/-- Nothing that an invalidation covers is cached. -/
def Surroundings.Without (what : Eviction) (s : Surroundings) : Prop :=
  ∀ key c, (key, c) ∈ s.broker.cache.entries → what.covers key = false

variable {i : Nat} {s t : Surroundings} {what : Eviction}

theorem Surroundings.Without.after {c : Call} {r : c.Answer} (h : s.Without what) (notKept : !c.keeps) :
    (s.after i c r).Without what := by
  intro key conn member
  refine h key conn (entries_after ?_ member).1
  rintro key g conn rfl
  cases notKept

/-- After an invalidation nothing is cached that it covers. -/
theorem Connections.wp_invalidate_without :
    Program.wp (alone i) (fun _ t => t.Without what) (invalidate what) s := by
  refine (Program.wp_bind ..).2 (Surroundings.alone_iff.2 fun evicted _ => ?_)
  have without : (s.after i (.evict what) evicted).Without what := fun key c member =>
    (Surroundings.entries_after (c := .evict what) nofun member).2 _ rfl
  have closing : Program.wp (alone i) (fun _ t => t.Without what) (closeAll evicted) (s.after i (.evict what) evicted) := by
    refine Program.wp_of_only (fun c _ u works before next => ?_) (only_closeAll evicted) without
    exact Surroundings.alone_iff.2 fun r _ => next r _ (before.after (c.not_keeps_of_works works))
  refine Program.wp_seq closing fun errors t after => ?_
  cases errors <;> exact after

theorem Fleet.wp_flushed_without {outcome : Outcome Unit} :
    Op.wp (alone i) (fun _ t => t.Without what) (fun _ _ => True) (flushed what outcome) s := by
  refine wp_seq_lift Connections.wp_invalidate_without fun closed t without => ?_
  cases closed <;> exact without

/-- What comes after some steps comes after them whatever they do. -/
theorem wp_after_any {p : Op α} {f : α → Op β} {ok : β → Surroundings → Prop}
    (rest : ∀ a t, Op.wp (alone i) ok (fun _ _ => True) (f a) t) : Op.wp (alone i) ok (fun _ _ => True) (p >>= f) s :=
  wp_seq (wp_either.2 (Surroundings.wp_alone_any _ s)) (fun a t _ => rest a t) fun _ _ _ => trivial

theorem Fleet.wp_registerCluster_without {name : String} {request : ClusterRequest} :
    Op.wp (alone i) (fun _ t => t.Without (.cluster name)) (fun _ _ => True) (registerCluster name request) s := by
  have enrolling (t : Surroundings) : Op.wp (alone i) (fun _ t => t.Without (.cluster name)) (fun _ _ => True)
      (enrol name request) t := by
    refine wp_after_any fun _ _ => wp_after_any fun _ _ => wp_after_any fun _ _ => wp_after_any fun _ u => ?_
    refine wp_seq_lift Connections.wp_invalidate_without fun closed t without => ?_
    cases closed <;> exact without
  refine wp_registerCluster (fun _ => trivial) (wp_mono wp_loadRecord (fun _ t _ => ?_) fun _ _ _ => trivial)
  exact ⟨fun _ => trivial, enrolling t⟩

/-- Only the record of a database that was deleted is read to be purged. -/
theorem Reclaim.wp_readDatabase {cluster name : String} : Op.wp (alone i)
    (fun d _ => Loads DatabaseRecord.decode s.values (StoreKeys.database cluster name) (some d) ∧ d.disabled = true)
    (fun _ _ => True) (readDatabase cluster name) s :=
  wp_found wp_loadRecord (fun _ _ => trivial)
    (fun d t loaded => wp_unless trivial fun deleted => ⟨loaded.2, by simpa using deleted⟩) fun _ _ _ => trivial

namespace Command

variable {command : Command} {reply : Except BrokerError (Option Credential)} {a : Option Credential}

/-- What a command closes that succeeds is not cached after it. -/
theorem evicted (run : Surroundings.Runs i command.op.run s (.ok a) t) (evicts : command.evicts? = some what) :
    t.Without what := by
  cases command with
  | registerCluster name request =>
    cases evicts
    exact of_wp_op run (wp_unkept.2 Fleet.wp_registerCluster_without)
  | deleteCluster name =>
    cases evicts
    exact of_wp_op run (wp_unkept.2 (wp_after_any fun _ _ => wp_after_any fun _ _ => Fleet.wp_flushed_without))
  | purgeCluster name =>
    cases evicts
    exact of_wp_op run (wp_unkept.2 (wp_after_any fun _ _ => wp_after_any fun _ _ => Fleet.wp_flushed_without))
  | deleteDatabase cluster name =>
    cases evicts
    refine of_wp_op run (wp_unkept.2 (wp_after_any fun c? t => ?_))
    cases c? with
    | none => trivial
    | some c =>
      refine wp_unless trivial fun _ => wp_after_any fun d? t => ?_
      cases d? with
      | none => trivial
      | some d => exact wp_unless trivial fun _ => wp_after_any fun _ _ => Fleet.wp_flushed_without
  | purgeDatabase cluster name =>
    cases evicts
    exact of_wp_op run (wp_unkept.2 (wp_after_any fun _ _ => wp_after_any fun _ _ => Fleet.wp_flushed_without))
  | shutDown =>
    cases evicts
    exact of_wp_op run (wp_unkept.2 ((wp_lift _).2 (Connections.wp_invalidate_without)))
  | _ => cases evicts

/-! ## What is found and what is left -/

/-- What is purged was deleted before. -/
theorem purged_database {cluster name : String}
    (run : Surroundings.Runs i (purgeDatabase cluster name).op.run s (.ok a) t) :
    ∃ d, Loads DatabaseRecord.decode s.values (StoreKeys.database cluster name) (some d) ∧ d.disabled = true := by
  refine of_wp_op (Q := fun _ => ∃ d, Loads DatabaseRecord.decode s.values (StoreKeys.database cluster name) (some d) ∧
    d.disabled = true) run (wp_unkept.2 (wp_seq Reclaim.wp_readDatabase (fun d u read => ?_) fun _ _ h => h))
  exact wp_mono (wp_either.2 (Surroundings.wp_alone_any _ u)) (fun _ _ _ => ⟨d, read⟩) fun _ _ _ => trivial

/-- A database that has just been registered is active. -/
theorem registered_database {cluster name : String} {request : DatabaseRequest}
    (run : Surroundings.Runs i (registerDatabase cluster name request).op.run s (.ok a) t) :
    ∃ d : DatabaseRecord, t.values.get? (StoreKeys.database cluster name) = some d.encode ∧ d.disabled = false := by
  obtain ⟨results, decided, left⟩ :=
    of_wp_op run (wp_unkept.2 ((Fleet.registerDatabaseChange cluster name request).wp_decided rfl))
  obtain ⟨-, -, -, rfl⟩ := Fleet.decideEnlisting_eq_write decided
  obtain ⟨owner, -, left⟩ := left
  exact ⟨_, left, rfl⟩

end Command

/-! ## Who alters a record -/

section
variable {command : Command} {reply : Except BrokerError (Option Credential)} {cluster name : String}

/-- The record of a cluster stays as it is unless a command succeeds that alters it. -/
theorem Command.cluster_altered (named : Names.isName name) (run : Surroundings.Runs i command.op.run s reply t) :
    t.values.get? (StoreKeys.cluster name) = s.values.get? (StoreKeys.cluster name) ∨
      Entry.Succeeds ⟨s, command, reply⟩ ∧ command.OnCluster name := by
  have unlike (c d : String) : StoreKeys.cluster name ≠ StoreKeys.database c d :=
    StoreKeys.cluster_ne_database (Names.slash_not_mem named) c d
  refine (command.alters run (StoreKeys.cluster name)).imp_right fun ⟨done, altered⟩ => ⟨done, ?_⟩
  cases command with
  | registerCluster n request =>
    obtain rfl := StoreKeys.cluster_injective altered.1
    exact .registers request
  | deleteCluster n =>
    obtain rfl := StoreKeys.cluster_injective altered.1
    exact .deletes
  | purgeCluster n =>
    obtain rfl := StoreKeys.cluster_injective altered.1
    exact .purges
  | cloneCluster source request =>
    obtain ⟨own | ⟨n, own, -⟩, -⟩ := altered
    · exact .clones source request (StoreKeys.cluster_injective own).symm
    · exact absurd own (unlike _ n)
  | registerDatabase c n request => exact absurd altered.1 (unlike c n)
  | deleteDatabase c n => exact absurd altered.1 (unlike c n)
  | purgeDatabase c n => exact absurd altered.1 (unlike c n)
  | writeRole limits n request => exact absurd altered.symm (StoreKeys.role_ne_cluster n name)
  | deleteRole n => exact absurd altered.symm (StoreKeys.role_ne_cluster n name)
  | writeTags c database tags =>
    obtain ⟨id, own⟩ := altered
    exact absurd own.symm (StoreKeys.tagSet_ne_cluster id name)
  | eraseTags id => exact absurd altered.symm (StoreKeys.tagSet_ne_cluster id name)
  | _ => exact altered.elim

/-- The record of a database stays as it is unless a command succeeds that alters it. -/
theorem Command.database_altered (name : String) (filed : WellFiled s.values) (named : Names.isName cluster)
    (run : Surroundings.Runs i command.op.run s reply t) :
    t.values.get? (StoreKeys.database cluster name) = s.values.get? (StoreKeys.database cluster name) ∨
      Entry.Succeeds ⟨s, command, reply⟩ ∧ command.OnDatabase cluster name := by
  have unlike {n : String} (valid : Names.isName n) : StoreKeys.database cluster name ≠ StoreKeys.cluster n :=
    (StoreKeys.cluster_ne_database (Names.slash_not_mem valid) cluster name).symm
  have alike {c n : String} (named' : Names.isName c) (own : StoreKeys.database cluster name = StoreKeys.database c n) :
      cluster = c ∧ name = n :=
    StoreKeys.database_injective_of_bare (Names.slash_not_mem named') (Names.slash_not_mem named) own
  -- A record lies under a key that is made of names.
  have valid' {n : String} {c : ClusterRecord}
      (loads : Loads ClusterRecord.decode s.values (StoreKeys.cluster n) (some c)) : Names.isName n := by
    obtain ⟨text, found, decoded⟩ := loads
    exact ((filed _ _ found).cluster_fit decoded).1
  have valid {c n : String} {d : DatabaseRecord}
      (loads : Loads DatabaseRecord.decode s.values (StoreKeys.database c n) (some d)) : Names.isName c := by
    obtain ⟨text, found, decoded⟩ := loads
    exact ((filed _ _ found).database_fit decoded).1
  refine (command.alters run (StoreKeys.database cluster name)).imp_right fun ⟨done, altered⟩ => ⟨done, ?_⟩
  cases command with
  | registerCluster n request => exact absurd altered.1 (unlike altered.2)
  | deleteCluster n =>
    obtain ⟨own, c, loads, -⟩ := altered
    exact absurd own (unlike (valid' (own ▸ loads)))
  | purgeCluster n =>
    obtain ⟨own, c, loads⟩ := altered
    exact absurd own (unlike (valid' (own ▸ loads)))
  | cloneCluster source request =>
    obtain ⟨own | ⟨n, own, -⟩, named', -⟩ := altered
    · exact absurd own (unlike named')
    · exact .copies source request (alike named' own).1.symm
  | registerDatabase c n request =>
    obtain ⟨rfl, rfl⟩ := alike altered.2.1 altered.1
    exact .registers request
  | deleteDatabase c n =>
    obtain ⟨own, d, loads, -⟩ := altered
    obtain ⟨rfl, rfl⟩ := alike (valid (own ▸ loads)) own
    exact .deletes
  | purgeDatabase c n =>
    obtain ⟨a, rfl⟩ := done
    obtain ⟨d, loads, -⟩ := purged_database run
    obtain ⟨rfl, rfl⟩ := alike (valid loads) altered.1
    exact .purges
  | writeRole limits n request => exact absurd altered.symm (StoreKeys.role_ne_database n cluster name)
  | deleteRole n => exact absurd altered.symm (StoreKeys.role_ne_database n cluster name)
  | writeTags c database tags =>
    obtain ⟨id, own⟩ := altered
    exact absurd own.symm (StoreKeys.tagSet_ne_database id cluster name)
  | eraseTags id => exact absurd altered.symm (StoreKeys.tagSet_ne_database id cluster name)
  | _ => exact altered.elim

end

end LeaseBroker
