import LeaseBroker.Proofs.Commands

/-!
Commands one after the other, from an empty store. Each may end as it will, but
none runs while another does. Between commands every registered cluster bears a
name (`Session.named`), and the connections that are cached for it lead where
its record says (`Session.resting`).
-/
namespace LeaseBroker

open Op
open Surroundings (alone Resting)

/-- A command, what it met, and how it ended. -/
structure Entry where
  before : Surroundings
  command : Command
  reply : Except BrokerError (Option Credential)

/-- Commands that ran one after the other from an empty store, the latest first, and the state after them. -/
inductive Session : List Entry → Surroundings → Prop
  | start : Session [] .blank
  | next {log : List Entry} {s t : Surroundings} {command : Command} {reply : Except BrokerError (Option Credential)}
      {i : Nat} (earlier : Session log s) (run : Surroundings.Runs i command.op.run s reply t) :
      Session (⟨s, command, reply⟩ :: log) t

def Entry.Succeeds (e : Entry) : Prop := ∃ a, e.reply = .ok a

/-- There was an entry of one kind, and none of the other after it. -/
def Since (begins lapses : Entry → Prop) : List Entry → Prop
  | [] => False
  | e :: earlier => begins e ∨ ¬lapses e ∧ Since begins lapses earlier

variable {i : Nat} {s t : Surroundings} {command : Command} {reply : Except BrokerError (Option Credential)}

/-- A command keeps what its operation keeps. -/
theorem Command.of_keeps {I : Surroundings → Prop} (run : Surroundings.Runs i command.op.run s reply t)
    (kept : Op.Keeps (alone i) I command.op) (start : I s) : I t := by
  have ended := Program.wp_demonic_iff.1 (kept s start) _ _ run
  cases reply with
  | ok a => exact ended
  | error e => exact ended.1

/-- What a command may leave under a key, whether it succeeds or not. -/
theorem Command.alters (run : Surroundings.Runs i command.op.run s reply t) (key : String) :
    t.values.get? key = s.values.get? key ∨
      Entry.Succeeds ⟨s, command, reply⟩ ∧ command.Alters s.values key (t.values.get? key) := by
  cases reply with
  | ok a => exact (alters_of_succeeded run key).imp id fun altered => ⟨⟨a, rfl⟩, altered⟩
  | error e => exact .inl (by rw [values_of_failed run])

/-- A command that is about one record leaves the others as they are. -/
theorem Command.kept_beside {own key : String} (run : Surroundings.Runs i command.op.run s reply t)
    (owns : ∀ left, command.Alters s.values key left → key = own) (other : key ≠ own) :
    t.values.get? key = s.values.get? key := by
  rcases Command.alters run key with same | ⟨-, altered⟩
  · exact same
  · exact absurd (owns _ altered) other

/-- The record of a database is none of a cluster. -/
theorem not_loads_database {values : Table String} {key : String} {d : DatabaseRecord} {c : ClusterRecord}
    (stored : values.get? key = some d.encode) : ¬Loads ClusterRecord.decode values key (some c) := by
  rintro ⟨text, found, decoded⟩
  obtain ⟨report, failed⟩ := d.cluster_decode_encode
  cases stored.symm.trans found
  cases failed.symm.trans decoded

/-- What a cluster bears that is registered is a name. -/
theorem Command.named (run : Surroundings.Runs i command.op.run s reply t) {name : String}
    (before : ∀ c, Loads ClusterRecord.decode s.values (StoreKeys.cluster name) (some c) → Names.isName name)
    {c : ClusterRecord} (loads : Loads ClusterRecord.decode t.values (StoreKeys.cluster name) (some c)) :
    Names.isName name := by
  rcases command.alters run (StoreKeys.cluster name) with same | ⟨-, altered⟩
  · rw [Loads, same] at loads
    exact before c loads
  · cases command with
    | registerCluster n request =>
      obtain ⟨own, valid⟩ := altered
      exact StoreKeys.cluster_injective own ▸ valid
    | deleteCluster n =>
      obtain ⟨-, c, stored, -⟩ := altered
      exact before c stored
    | purgeCluster n =>
      obtain ⟨-, c, stored⟩ := altered
      exact before c stored
    | cloneCluster source request =>
      obtain ⟨own | ⟨n, -, d, left⟩, valid, -⟩ := altered
      · exact StoreKeys.cluster_injective own ▸ valid
      · exact absurd loads (not_loads_database left)
    | registerDatabase c n request =>
      obtain ⟨-, -, -, d, left⟩ := altered
      exact absurd loads (not_loads_database left)
    | deleteDatabase c n =>
      obtain ⟨-, d, -, left⟩ := altered
      exact absurd loads (not_loads_database left)
    | purgeDatabase c n =>
      obtain ⟨text, found, -⟩ := loads
      cases altered.2.symm.trans found
    | writeRole limits n request => exact absurd altered.symm (StoreKeys.role_ne_cluster n name)
    | deleteRole n => exact absurd altered.symm (StoreKeys.role_ne_cluster n name)
    | writeTags c database tags =>
      obtain ⟨id, own⟩ := altered
      exact absurd own.symm (StoreKeys.tagSet_ne_cluster id name)
    | eraseTags id => exact absurd altered.symm (StoreKeys.tagSet_ne_cluster id name)
    | _ => exact altered.elim

/-- No command disturbs what is cached for a cluster. -/
theorem Command.keeps_resting (command : Command) {cluster : String} (named : Names.isName cluster) :
    Op.Keeps (alone i) (Resting cluster) command.op := by
  have renewable (name : String) : Renewable (alone i) (Resting cluster) name := by
    by_cases own : name = cluster
    · subst own
      exact renewable_resting
    · exact routine_resting.habit.renewable (free_resting fun same => own (StoreKeys.cluster_injective same))
  have database (c name : String) : Free (alone i) (Resting cluster) (StoreKeys.database c name) :=
    free_resting (StoreKeys.cluster_ne_database (Names.slash_not_mem named) c name).symm
  have role (name : String) : Free (alone i) (Resting cluster) (StoreKeys.role name) :=
    free_resting (StoreKeys.role_ne_cluster name cluster)
  have tagSet (id : String) : Free (alone i) (Resting cluster) (StoreKeys.tagSet id) :=
    free_resting (StoreKeys.tagSet_ne_cluster id cluster)
  by_cases clone : ∃ source request, command = cloneCluster source request ∧ request.target = cluster
  · obtain ⟨source, request, rfl, rfl⟩ := clone
    exact keeps_unkept Replicas.keeps_cloneCluster_resting
  · refine keeps_op routine_resting.habit command ?_
    cases command with
    | registerCluster name request => exact renewable name
    | deleteCluster name => exact renewable name
    | purgeCluster name => exact renewable name
    | cloneCluster source request =>
      refine ⟨free_resting fun same => ?_, fun name d => keeps_put (database _ name)⟩
      exact clone ⟨source, request, rfl, StoreKeys.cluster_injective same⟩
    | registerDatabase c name request => exact database c name
    | deleteDatabase c name => exact database c name
    | purgeDatabase c name => exact database c name
    | writeRole limits name request => exact role name
    | deleteRole name => exact role name
    | writeTags c d tags => exact tagSet
    | eraseTags id => exact tagSet id
    | _ => trivial

namespace Session

variable {log : List Entry}

/-- Every registered cluster bears a name. -/
theorem named (session : Session log s) {name : String} {c : ClusterRecord}
    (loads : Loads ClusterRecord.decode s.values (StoreKeys.cluster name) (some c)) : Names.isName name := by
  induction session generalizing c with
  | start =>
    obtain ⟨text, found, -⟩ := loads
    cases found
  | next _ run ih => exact Command.named run (fun _ before => ih before) loads

/-- The connections that are cached for a cluster lead where its record says. -/
theorem resting (session : Session log s) {cluster : String} (named : Names.isName cluster) : Resting cluster s := by
  induction session with
  | start => exact fun _ _ cached => absurd cached List.not_mem_nil
  | next _ run ih => exact Command.of_keeps run (Command.keeps_resting _ named) ih

/-- What some entry begins, and each that does not end it keeps, holds in the end. -/
theorem of_since {begins lapses : Entry → Prop} {I : Surroundings → Prop}
    (begun : ∀ {log s t command reply i}, Session log s → Surroundings.Runs i (Command.op command).run s reply t →
      begins ⟨s, command, reply⟩ → I t)
    (kept : ∀ {log s t command reply i}, Session log s → Surroundings.Runs i (Command.op command).run s reply t →
      ¬lapses ⟨s, command, reply⟩ → I s → I t)
    (session : Session log s) (since : Since begins lapses log) : I s := by
  induction session with
  | start => exact since.elim
  | next earlier run ih =>
    rcases since with here | ⟨stays, before⟩
    · exact begun earlier run here
    · exact kept earlier run stays (ih before)

def exampleRequest : ClusterRequest := { host := "db", username := "root", password := "first" }

/-- After one command there can be a cluster that is active, has no database yet, and is the only one. -/
theorem exists_sole_cluster : ∃ s c, Session [⟨.blank, .registerCluster "main" exampleRequest, .ok none⟩] s ∧
    Loads ClusterRecord.decode s.values (StoreKeys.cluster "main") (some c) ∧ c.disabled = false ∧
    (∀ name, s.values.get? (StoreKeys.database "main" name) = none) ∧
    ∀ name, Names.isName name → name ≠ "main" → s.values.get? (StoreKeys.cluster name) = none := by
  have main : Names.isName "main" := by decide +kernel
  obtain ⟨record, fine, enabled⟩ : ∃ record, exampleRequest.validate = .ok record ∧ record.disabled = false := ⟨_, rfl, rfl⟩
  obtain ⟨s, c, run, stored, active, still⟩ :=
    Command.runs_registerCluster (i := 0) (s := .blank) main fine ⟨none, rfl, rfl⟩
  refine ⟨s, c, Session.start.next run, stored, active.trans enabled, fun name => ?_, fun name named other => still _ ?_⟩
  · rcases Command.alters run (StoreKeys.database "main" name) with same | ⟨-, own, -⟩
    · exact same
    · exact absurd own.symm (StoreKeys.cluster_ne_own_database "main" name)
  · exact ⟨fun same => other (StoreKeys.cluster_injective same),
      fun d => StoreKeys.cluster_ne_database (Names.slash_not_mem named) "main" d⟩

/-- There can be a cluster that is active and has no database yet. -/
theorem exists_cluster : ∃ s c, Session [⟨.blank, .registerCluster "main" exampleRequest, .ok none⟩] s ∧
    Loads ClusterRecord.decode s.values (StoreKeys.cluster "main") (some c) ∧ c.disabled = false ∧
    ∀ name, s.values.get? (StoreKeys.database "main" name) = none := by
  obtain ⟨s, c, session, stored, active, free, -⟩ := exists_sole_cluster
  exact ⟨s, c, session, stored, active, free⟩

/-- A cluster, a role and a database can be registered one after the other, and all are active. -/
theorem exists_registered (limits : LeaseLimits) (request : RoleRequest)
    (bounded : (!(request.maxTtl.getD limits.maxTtl).isZero &&
      request.maxTtl.getD limits.maxTtl < request.defaultTtl.getD limits.defaultTtl) = false) :
    ∃ log before s c d, Session (⟨before, .registerDatabase "main" "app" {}, .ok none⟩ :: log) s ∧
      Loads ClusterRecord.decode s.values (StoreKeys.cluster "main") (some c) ∧ c.disabled = false ∧
      Loads DatabaseRecord.decode s.values (StoreKeys.database "main" "app") (some d) ∧ d.disabled = false ∧
      Loads RoleRecord.decode s.values (StoreKeys.role "reader") (some (Command.requestedRole limits request)) := by
  have main : Names.isName "main" := by decide +kernel
  have app : Names.isName "app" := by decide +kernel
  have reader : Names.isName "reader" := by decide +kernel
  obtain ⟨s₁, c, session, stored, active, free⟩ := exists_cluster
  obtain ⟨s₂, run₂, pattern, still₂⟩ := Command.runs_writeRole (i := 0) (s := s₁) limits request reader bounded
  have stored₂ : Loads ClusterRecord.decode s₂.values (StoreKeys.cluster "main") (some c) := by
    rwa [Loads, still₂ _ (StoreKeys.role_ne_cluster "reader" "main").symm]
  have free₂ : s₂.values.get? (StoreKeys.database "main" "app") = none :=
    (still₂ _ (StoreKeys.role_ne_database "reader" "main" "app").symm).trans (free "app")
  obtain ⟨s, d, run₃, stored', active', still₃⟩ := Command.runs_registerDatabase (i := 0) {} main app stored₂ active free₂
  refine ⟨_, _, s, c, d, session.next run₂ |>.next run₃, ?_, active, stored', active', ?_⟩
  · rwa [Loads, still₃ _ (StoreKeys.cluster_ne_own_database "main" "app")]
  · rwa [Loads, still₃ _ (StoreKeys.role_ne_database "reader" "main" "app")]

end Session

end LeaseBroker
