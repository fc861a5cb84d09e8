import LeaseBroker.Proofs.ClonedPasswords
import LeaseBroker.Proofs.DeletedClusters
import LeaseBroker.Proofs.HostRequests

/-!
The life of the record of a cluster. It comes with a registration or a clone, is
replaced by a registration, marked by a deletion and erased by a purge, and each
of them wants it as the one before has left it (`ClusterMove`). Every other
command lies under other keys, whatever texts a caller puts into them. What a
registration or a clone stores of logins it has drawn itself (`Logins.Drawn`).
-/
namespace LeaseBroker

open Op
open Surroundings (alone)

/-! ## What is drawn -/

/-- Whether the call draws a random value. -/
def Call.draws : Call → Bool
  | uuid | password => true
  | _ => false

theorem Call.not_draws_of_tends (c : Call) (h : c.tends) : !c.draws := by cases c <;> first | rfl | cases h

namespace Surroundings

variable {s t : Surroundings} {i : Nat}

/-- All random values that were ever drawn, the latest first. -/
def drawn (s : Surroundings) : List Event := s.history.filter (·.call.draws)

theorem drawn_after {c : Call} {r : c.Answer} (undrawn : !c.draws) : (s.after i c r).drawn = s.drawn := by
  have skipped : ¬c.draws = true := by simpa using undrawn
  exact List.filter_cons_of_neg skipped

theorem wp_undrawn {α : Type} {p : Program α} {events : List Event} (h : Program.Only (!·.draws) p)
    (before : s.drawn = events) : Program.wp (alone i) (fun _ t => t.drawn = events) p s := by
  refine Program.wp_of_only (D := alone i) (I := fun t => t.drawn = events) (fun c K t undrawn same next => ?_) h before
  exact alone_iff.2 fun r _ => next r _ ((drawn_after undrawn).trans same)

end Surroundings

variable {i : Nat} {s t : Surroundings} {name : String}

namespace Fleet

/-- The logins were drawn since `s`, and nothing else was. -/
def Logins.Drawn (i : Nat) (s t : Surroundings) (logins : Logins) : Prop :=
  ∃ id, logins.managementRole = Names.managementRole id ∧
    t.drawn = ⟨i, .password, logins.rootPassword⟩ :: ⟨i, .password, logins.managementPassword⟩ :: ⟨i, .uuid, id⟩ :: s.drawn

theorem wp_rotatePassword_drawn {c : Connection} {user : String} :
    Op.wp (alone i) (fun password t => t.drawn = ⟨i, .password, password⟩ :: s.drawn) (fun _ _ => True)
      (rotatePassword c user) s := by
  refine (wp_bind_lift ..).2 (Surroundings.alone_iff.2 fun password _ => ?_)
  refine (wp_bind_ofSql ..).2 (Surroundings.alone_iff.2 fun told _ => ?_)
  cases told with
  | error e => trivial
  | ok u => rfl

theorem wp_provisionCluster_drawn {c : Connection} {user : String} :
    Op.wp (alone i) (fun logins t => logins.Drawn i s t) (fun _ _ => True) (provisionCluster c user) s := by
  have creating : Op.wp (alone i)
      (fun login t => ∃ id, login.1 = Names.managementRole id ∧
        t.drawn = ⟨i, .password, login.2⟩ :: ⟨i, .uuid, id⟩ :: s.drawn)
      (fun _ _ => True) (createManagementRole c) s := by
    refine (wp_bind_lift ..).2 (Surroundings.alone_iff.2 fun id _ => ?_)
    refine (wp_bind_lift ..).2 (Surroundings.alone_iff.2 fun password _ => ?_)
    refine (wp_bind_ofSql ..).2 (Surroundings.alone_iff.2 fun told _ => ?_)
    cases told with
    | error e => trivial
    | ok u => exact ⟨id, rfl, rfl⟩
  refine wp_seq_inContext creating (fun login t created => ?_) fun _ _ _ => trivial
  obtain ⟨id, role, first⟩ := created
  refine wp_seq_inContext wp_rotatePassword_drawn (fun password u second => ?_) fun _ _ _ => trivial
  exact ⟨id, role, second.trans (congrArg (List.cons _) first)⟩

end Fleet

/-- The record with the logins of a new registration. -/
def ClusterRecord.withLogins (c : ClusterRecord) (logins : Fleet.Logins) : ClusterRecord :=
  { c with
    managementRole := logins.managementRole
    managementPassword := logins.managementPassword
    password := logins.rootPassword }

/-- The record of a clone. -/
def ClusterRecord.cloned (c : ClusterRecord) (host : String) (port : UInt16) (managementPassword rootPassword : String) :
    ClusterRecord :=
  { c with host, port, managementPassword, password := rootPassword }

/-- What comes after a record was written, if it leaves that record alone and draws nothing. -/
theorem wp_written {α : Type} {p : Program α} {key text : String} {events : List Event}
    (only : Program.Only (fun c => !c.draws ∧ ∀ i r, (Event.mk i c r).left? key = none) p)
    (stored : s.values.get? key = some text) (drawn : s.drawn = events) :
    Program.wp (alone i) (fun _ t => t.values.get? key = some text ∧ t.drawn = events) p s := by
  refine Program.wp_of_only (D := alone i) (I := fun t => t.values.get? key = some text ∧ t.drawn = events)
    (fun c K t calm before next => Surroundings.alone_iff.2 fun r _ => next r _ ⟨?_, ?_⟩) only ⟨stored, drawn⟩
  · rw [Surroundings.get?_after, calm.2]
    exact before.1
  · exact (Surroundings.drawn_after calm.1).trans before.2

/-- What a registration has stored, and that it has drawn the logins. -/
def Fleet.Enrolled (i : Nat) (name : String) (request : ClusterRequest) (s t : Surroundings) : Prop :=
  ∃ record logins, request.validate = .ok record ∧ logins.Drawn i s t ∧
    t.values.get? (StoreKeys.cluster name) = some (record.withLogins logins).encode

theorem Fleet.wp_registerCluster_drawn {request : ClusterRequest} :
    Op.wp (alone i) (fun _ t => Enrolled i name request s t) (fun _ _ => True) (registerCluster name request) s := by
  have tending {α : Type} {p : Program α} (h : Program.Only (·.tends) p) : Program.Only (!·.draws) p :=
    Program.only_mono Call.not_draws_of_tends h
  have looking : Op.wp (alone i) (fun _ t => t.drawn = s.drawn) (fun _ t => t.drawn = s.drawn) (loadCluster name) s :=
    wp_either.2 (Surroundings.wp_undrawn (calls_loadRecord rfl) rfl)
  refine wp_registerCluster (fun _ => trivial) (wp_mono looking (fun _ t same => ?_) fun _ _ _ => trivial)
  refine ⟨fun _ => trivial, wp_checked (fun _ _ => trivial) fun record valid => ?_⟩
  have opening : Op.wp (alone i) (fun _ u => u.drawn = s.drawn) (fun _ u => u.drawn = s.drawn)
      (Connections.openDirect record .root) t :=
    wp_either.2 (Surroundings.wp_undrawn (tending Connections.tends_openUncached) same)
  refine wp_seq opening (fun c u same => ?_) fun _ _ _ => trivial
  refine wp_seq_andAlways wp_provisionCluster_drawn (fun logins v drawn => ?_) fun _ v _ => Surroundings.wp_alone_any _ v
  obtain ⟨id, role, drawn⟩ := drawn
  rw [same] at drawn
  refine Program.wp_mono (fun _ w drawn => ?_) (Surroundings.wp_undrawn (tending Connections.tends_closeQuietly) drawn)
  refine (wp_bind_ofStore ..).2 (Surroundings.alone_iff.2 fun stored _ => ?_)
  cases stored with
  | error e => trivial
  | ok done =>
    have left : (w.after i (.put (StoreKeys.cluster name) (record.withLogins logins).encode) (.ok done)).values.get?
        (StoreKeys.cluster name) = some (record.withLogins logins).encode := Table.get?_insert_self ..
    refine wp_seq_lift (wp_written (Program.only_mono ?_ Connections.tends_invalidate) left drawn)
      fun closed x kept => ?_
    · exact fun c tends => ⟨c.not_draws_of_tends tends, fun i r => by cases c <;> first | rfl | cases tends⟩
    · have enrolled : Enrolled i name request s x := ⟨record, logins, valid, ⟨id, role, kept.2⟩, kept.1⟩
      cases closed <;> exact enrolled

namespace Replicas

/-- What a clone has stored, and that it has drawn the passwords. -/
def Enrolled (i : Nat) (source : String) (request : CloneRequest) (s t : Surroundings) : Prop :=
  ∃ c port managementPassword rootPassword, Source source request s.values c port ∧
    t.drawn = ⟨i, .password, rootPassword⟩ :: ⟨i, .password, managementPassword⟩ :: s.drawn ∧
    t.values.get? (StoreKeys.cluster request.target) =
      some (c.cloned request.host port managementPassword rootPassword).encode

theorem wp_rotateBoth_drawn {c : Connection} {record : ClusterRecord} :
    Op.wp (alone i)
      (fun passwords t => t.drawn = ⟨i, .password, passwords.2⟩ :: ⟨i, .password, passwords.1⟩ :: s.drawn)
      (fun _ _ => True) (rotateBoth c record) s := by
  refine wp_seq_inContext Fleet.wp_rotatePassword_drawn (fun management u first => ?_) fun _ _ _ => trivial
  refine wp_seq_inContext Fleet.wp_rotatePassword_drawn (fun root v second => ?_) fun _ _ _ => trivial
  exact second.trans (congrArg (List.cons _) first)

theorem wp_cloneCluster_drawn {source : String} {request : CloneRequest} :
    Op.wp (alone i) (fun _ t => Enrolled i source request s t) (fun _ _ => True) (cloneCluster source request) s := by
  have tending {α : Type} {p : Program α} (h : Program.Only (·.tends) p) : Program.Only (!·.draws) p :=
    Program.only_mono Call.not_draws_of_tends h
  have step {α : Type} {p : Op α} {u : Surroundings} (h : Op.Only (·.tends) p) (same : u.drawn = s.drawn) :
      Op.wp (alone i) (fun _ t => t.drawn = s.drawn) (fun _ t => t.drawn = s.drawn) p u :=
    wp_either.2 (Surroundings.wp_undrawn (tending h) same)
  have checking : Op.wp (alone i) (fun _ t => t.drawn = s.drawn) (fun _ t => t.drawn = s.drawn)
      (checkClone source request) s :=
    wp_either.2 (Surroundings.wp_undrawn (calls_checkClone rfl rfl) rfl)
  refine wp_seq (wp_both wp_checkClone checking) (fun record t checked => ?_) fun _ _ _ => trivial
  obtain ⟨⟨-, -, c, port, cloned, rfl⟩, same⟩ := checked
  refine wp_seq (step tends_tryManagement same) (fun warnings t same => ?_) fun _ _ _ => trivial
  refine wp_seq_inContext (step Connections.tends_openUncached same) (fun root t same => ?_) fun _ _ _ => trivial
  refine wp_seq_andAlways wp_rotateBoth_drawn (fun passwords u drawn => ?_) fun _ u _ => Surroundings.wp_alone_any _ u
  rw [same] at drawn
  refine Program.wp_mono (fun _ v drawn => ?_) (Surroundings.wp_undrawn (tending Connections.tends_closeQuietly) drawn)
  refine (wp_bind_inContext ..).2 ((wp_ofStore _).2 (Surroundings.alone_iff.2 fun stored _ => ?_))
  cases stored with
  | error e => trivial
  | ok done =>
    let record := c.cloned request.host port passwords.1 passwords.2
    have left : (v.after i (.put (StoreKeys.cluster request.target) record.encode) (.ok done)).values.get?
        (StoreKeys.cluster request.target) = some record.encode := Table.get?_insert_self ..
    refine wp_seq_lift (wp_written ?_ left drawn) fun tallied x kept => ?_
    · refine calls_copyDatabases ⟨rfl, fun _ _ => rfl⟩ (fun _ => ⟨rfl, fun _ _ => rfl⟩) (fun d v => ⟨rfl, fun i r => ?_⟩) _
      cases r with
      | error e => rfl
      | ok done => exact if_neg (StoreKeys.cluster_ne_own_database request.target d).symm
    · exact ⟨c, port, passwords.1, passwords.2, cloned, kept.2, kept.1⟩

end Replicas

/-! ## How a record changes -/

theorem ClusterRequest.enabled_of_validate {request : ClusterRequest} {record : ClusterRecord}
    (valid : request.validate = .ok record) : record.disabled = false := by
  unfold validate at valid
  obtain ⟨-, valid⟩ := passed_unless valid
  split at valid
  · obtain ⟨-, valid⟩ := passed_unless valid
    obtain ⟨-, valid⟩ := passed_unless valid
    split at valid
    · cases valid
      rfl
    · cases valid
  · cases valid

/-- How a command may change the record of a cluster, by what it was before, if there was one, and what it is after. -/
inductive ClusterMove (i : Nat) (s t : Surroundings) (name : String) :
    Command → Option ClusterRecord → Option ClusterRecord → Prop
  | registers {before : Option ClusterRecord} {request : ClusterRequest} {record : ClusterRecord} {logins : Fleet.Logins}
      (registrable : ∀ c, before = some c → c.disabled = false) (valid : request.validate = .ok record)
      (enabled : record.disabled = false) (drawn : logins.Drawn i s t) :
      ClusterMove i s t name (.registerCluster name request) before (some (record.withLogins logins))
  | clones {source : String} {request : CloneRequest} {c : ClusterRecord} {port : UInt16}
      {managementPassword rootPassword : String} (own : request.target = name)
      (cloned : Replicas.Source source request s.values c port)
      (drawn : t.drawn = ⟨i, .password, rootPassword⟩ :: ⟨i, .password, managementPassword⟩ :: s.drawn) :
      ClusterMove i s t name (.cloneCluster source request) none
        (some (c.cloned request.host port managementPassword rootPassword))
  | deletes {c : ClusterRecord} (active : c.disabled = false) :
      ClusterMove i s t name (.deleteCluster name) (some c) (some { c with disabled := true })
  | purges {c : ClusterRecord} (deleted : c.disabled = true) : ClusterMove i s t name (.purgeCluster name) (some c) none

/-- The record of a cluster before and after, if there is one. -/
def ClusterTurns (s t : Surroundings) (name : String) (before after : Option ClusterRecord) : Prop :=
  Loads ClusterRecord.decode s.values (StoreKeys.cluster name) before ∧
    Loads ClusterRecord.decode t.values (StoreKeys.cluster name) after

theorem loads_encoded {values : Table String} {c : ClusterRecord}
    (left : values.get? (StoreKeys.cluster name) = some c.encode) :
    Loads ClusterRecord.decode values (StoreKeys.cluster name) (some c) := ⟨_, left, c.decode_encode⟩

namespace Command

variable {command : Command} {reply : Except BrokerError (Option Credential)} {a : Option Credential}

theorem registers_move {request : ClusterRequest} (filed : WellFiled s.values) (named : Names.isName name)
    (run : Surroundings.Runs i (registerCluster name request).op.run s (.ok a) t) :
    ∃ before after, ClusterTurns s t name before after ∧
      ClusterMove i s t name (registerCluster name request) before after := by
  obtain ⟨before, loads⟩ := filed.readable_cluster (Names.slash_not_mem named)
  have enrolled : Fleet.Enrolled i name request s t :=
    of_wp_op (Q := fun t => Fleet.Enrolled i name request s t) run (wp_unkept.2 Fleet.wp_registerCluster_drawn)
  obtain ⟨record, logins, valid, drawn, left⟩ := enrolled
  have registrable : ∀ c, before = some c → c.disabled = false := by
    rintro c rfl
    by_contra marked
    have deleted : c.disabled = true := by simpa using marked
    have wants : (registerCluster name request).Wants name := rfl
    obtain ⟨⟨e, failed⟩, -⟩ := barred loads deleted wants run
    cases failed
  have enabled := ClusterRequest.enabled_of_validate valid
  exact ⟨before, _, ⟨loads, loads_encoded left⟩, .registers registrable valid enabled drawn⟩

theorem clones_move {source : String} {request : CloneRequest}
    (run : Surroundings.Runs i (cloneCluster source request).op.run s (.ok a) t) :
    ∃ before after, ClusterTurns s t request.target before after ∧
      ClusterMove i s t request.target (cloneCluster source request) before after := by
  have enrolled : Replicas.Enrolled i source request s t :=
    of_wp_op (Q := fun t => Replicas.Enrolled i source request s t) run (wp_unkept.2 Replicas.wp_cloneCluster_drawn)
  obtain ⟨c, port, managementPassword, rootPassword, cloned, drawn, left⟩ := enrolled
  have free := (checked_of_cloned run).2
  exact ⟨none, _, ⟨free, loads_encoded left⟩, .clones rfl cloned drawn⟩

theorem deletes_move (run : Surroundings.Runs i (deleteCluster name).op.run s (.ok a) t) :
    ∃ before after, ClusterTurns s t name before after ∧ ClusterMove i s t name (deleteCluster name) before after := by
  obtain ⟨results, decided, left⟩ := of_wp_op run (wp_unkept.2 ((Fleet.deleteClusterChange name).wp_decided rfl))
  obtain ⟨c, loads, active, rfl⟩ := Fleet.deletion_eq_write decided
  exact ⟨some c, _, ⟨loads, loads_encoded left⟩, .deletes active⟩

theorem purges_move (run : Surroundings.Runs i (purgeCluster name).op.run s (.ok a) t) :
    ∃ before after, ClusterTurns s t name before after ∧ ClusterMove i s t name (purgeCluster name) before after := by
  obtain ⟨results, decided, left⟩ := of_wp_op run (wp_unkept.2 ((Reclaim.purgeClusterChange name).wp_decided rfl))
  obtain ⟨c, loads, deleted, rfl⟩ := Reclaim.purging_eq_write decided
  exact ⟨some c, none, ⟨loads, left⟩, .purges deleted⟩

/-- The record of a cluster stays as it is, unless a command succeeds that is about it, and that only moves it on. -/
theorem cluster_moves (filed : WellFiled s.values) (named : Names.isName name)
    (run : Surroundings.Runs i command.op.run s reply t) :
    t.values.get? (StoreKeys.cluster name) = s.values.get? (StoreKeys.cluster name) ∨
      (∃ a, reply = .ok a) ∧ ∃ before after, ClusterTurns s t name before after ∧
        ClusterMove i s t name command before after := by
  refine (cluster_altered named run).imp_right fun ⟨⟨a, done⟩, own⟩ => ⟨⟨a, done⟩, ?_⟩
  cases done
  cases own with
  | registers request => exact registers_move filed named run
  | deletes => exact deletes_move run
  | purges => exact purges_move run
  | clones source request own =>
    subst own
    exact clones_move run

end Command

/-! ## Calls of a host -/

/-- The record of a cluster lies only under the key of a name. -/
theorem WellFiled.named_cluster {values : Table String} (filed : WellFiled values) {c : ClusterRecord}
    (loads : Loads ClusterRecord.decode values (StoreKeys.cluster name) (some c)) : Names.isName name := by
  obtain ⟨text, found, decoded⟩ := loads
  exact ((filed _ _ found).cluster_fit decoded).1

namespace HostCall

variable {call : HostCall} {command : Command} {result : Except BrokerError Response}

/-- What holds where nothing is done, and what commands come to, gives what calls come to. -/
theorem unmoved_or_asked {Unmoved : Prop} {Moved : Command → Prop} (run : Surroundings.Runs i call.program s result t)
    (idle : t = s → Unmoved)
    (moves : ∀ command reply, Surroundings.Runs i (Command.op command).run s reply t →
      Unmoved ∨ (∃ a, reply = .ok a) ∧ Moved command) :
    Unmoved ∨ (∃ r, result = .ok r ∧ r.error = none) ∧ ∃ command, call.asked = .ok command ∧ Moved command := by
  cases asks : call.asked with
  | error why =>
    obtain ⟨-, same⟩ := runs_unasked asks run
    exact .inl (idle same)
  | ok command =>
    obtain ⟨reply, ran, tells⟩ := runs_asked asks run
    rcases moves command reply ran with same | ⟨⟨a, rfl⟩, moved⟩
    · exact .inl same
    · exact .inr ⟨tells, command, rfl, moved⟩

/-- Whatever a host calls, the record of a cluster stays as it is, unless the call succeeds and asks for a command that
    moves it on. Under a text that is no name there never is the record of a cluster. -/
theorem cluster_lifecycle (reached : Reached s) (run : Surroundings.Runs i call.program s result t) (name : String) :
    (Names.isName name → t.values.get? (StoreKeys.cluster name) = s.values.get? (StoreKeys.cluster name) ∨
      (∃ r, result = .ok r ∧ r.error = none) ∧ ∃ command, call.asked = .ok command ∧
        ∃ before after, ClusterTurns s t name before after ∧ ClusterMove i s t name command before after) ∧
    (¬Names.isName name → ∀ before after, ClusterTurns s t name before after → before = none ∧ after = none) := by
  constructor
  · intro named
    refine unmoved_or_asked run (fun same => by rw [same]) fun command reply ran => ?_
    exact Command.cluster_moves reached.wellFiled named ran
  · rintro unnamed (_ | c) (_ | d) ⟨loads, loads'⟩
    · exact ⟨rfl, rfl⟩
    · exact absurd ((reached.call run).wellFiled.named_cluster loads') unnamed
    · exact absurd (reached.wellFiled.named_cluster loads) unnamed
    · exact absurd (reached.wellFiled.named_cluster loads) unnamed

/-- A host that asks for a command can come to whatever the command can come to. -/
theorem Reached.told (before : Reached s) (asks : call.asked = .ok command)
    {reply : Except BrokerError (Option Credential)} (run : Surroundings.Runs i command.op.run s reply t) :
    ∃ told, Surroundings.Runs i call.program s told t ∧ Reached t := by
  obtain ⟨told, run, -⟩ := runs_told asks run
  exact ⟨told, run, before.call run⟩

/-- A request to do something about names, which make up its path. -/
def about (operation : Operation) (parts : List String) (data : Fields.Data) : HostCall :=
  .handle {} { operation, path := Search.join "/" parts, data }

theorem fine_name {name : String} (named : Names.isName name) : name ≠ "" ∧ '/' ∉ name.toList := by
  refine ⟨?_, Names.slash_not_mem named⟩
  rintro rfl
  cases Names.not_isName_empty.symm.trans named

def exampleRegistration (name : String) : HostCall :=
  about .update ["cluster", name]
    (Table.ofList [("host", .string "db"), ("username", .string "root"), ("password", .string "first")])

theorem exampleRegistration_asks (named : Names.isName name) :
    (exampleRegistration name).asked = .ok (.registerCluster name Session.exampleRequest) :=
  (Router.asked_of_route {} (.cluster name) rfl (by simp [fine_name named]) (by simp [Router.namesValid, named])
    rfl).trans rfl

/-- A host can register a cluster where there is none, and its root password be any. -/
theorem exists_registered (password : String) : ∃ s c, Reached s ∧
    Loads ClusterRecord.decode s.values (StoreKeys.cluster "main") (some c) ∧ c.disabled = false ∧ c.password = password := by
  have main : Names.isName "main" := by decide +kernel
  obtain ⟨record, fine, enabled⟩ : ∃ record, Session.exampleRequest.validate = .ok record ∧ record.disabled = false :=
    ⟨_, rfl, rfl⟩
  obtain ⟨s, run, stored, -⟩ :=
    Command.runs_registerCluster_as (i := 0) (s := .blank) main fine ⟨none, rfl, rfl⟩ 0 "" password
  obtain ⟨told, -, reached⟩ := Reached.start.told (exampleRegistration_asks main) run
  exact ⟨s, _, reached, loads_encoded stored, enabled, rfl⟩

/-- A cluster that is active can be registered anew, and then has other logins. -/
theorem registered_anew : ∃ s t told before after, Reached s ∧
    Surroundings.Runs 0 (exampleRegistration "main").program s told t ∧ ClusterTurns s t "main" (some before) (some after) ∧
      ClusterMove 0 s t "main" (.registerCluster "main" Session.exampleRequest) (some before) (some after) ∧
      before.password ≠ after.password := by
  have main : Names.isName "main" := by decide +kernel
  obtain ⟨s, before, reached, loads, active, password⟩ := exists_registered "second"
  obtain ⟨record, fine, enabled⟩ : ∃ record, Session.exampleRequest.validate = .ok record ∧ record.disabled = false :=
    ⟨_, rfl, rfl⟩
  obtain ⟨t, run, stored, -⟩ := Command.runs_registerCluster_as (i := 0) main fine ⟨_, loads, by simpa using active⟩ 0 "" "third"
  have asks := exampleRegistration_asks main
  obtain ⟨told, call, -⟩ := reached.told asks run
  have loads' := loads_encoded stored
  have changed : before.password ≠ "third" := by
    rw [password]
    decide
  rcases (cluster_lifecycle reached call "main").1 main with same | ⟨-, command, asked, b, a, turns, moves⟩
  · rw [Loads, same] at loads'
    exact absurd (congrArg ClusterRecord.password (loads_unique loads loads')) changed
  · cases asks.symm.trans asked
    obtain rfl := loads_eq turns.1 loads
    obtain rfl := loads_eq turns.2 loads'
    exact ⟨s, t, told, before, _, reached, call, turns, moves, changed⟩

end HostCall

end LeaseBroker
