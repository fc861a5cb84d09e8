import LeaseBroker.Proofs.RecordText
import LeaseBroker.Proofs.ServerWork
import LeaseBroker.Router

/-!
What a call that fails leaves behind. An operation reads first, and only while
it has done nothing else may it be refused (`Careful`). Then it works on a
server, where it may fail but is not refused any more (`Diligent`). Writing to
the store comes last, and after a write nothing fails (`Sure`). So a call that
fails has written nothing, and one that is refused has done nothing at all.
-/
namespace LeaseBroker

open Surroundings (alone Untouched untouched_after values_after)

variable {α β : Type}

/-- What a failure has to leave as it was, and a refusal even more so. -/
def Harmless (s : Surroundings) (e : BrokerError) (t : Surroundings) : Prop :=
  t.values = s.values ∧ ((∃ why, e = .refused why) → Untouched s t)

/-- A failure before anything was written. -/
abbrev Unwritten (values : Table String) (e : BrokerError) (t : Surroundings) : Prop := Holding values t ∧ Fatal e

theorem Harmless.of_unwritten {s t : Surroundings} {e : BrokerError} (h : Unwritten s.values e t) : Harmless s e t :=
  ⟨h.1, fun ⟨why, same⟩ => absurd same (h.2 why)⟩

/-! ## The stages of an operation -/

namespace Op

variable (i : Nat)

/-- `p` may be refused, as long as it has done nothing yet. -/
def Careful (s : Surroundings) (p : Op α) : Prop :=
  ∀ t, Untouched s t → Op.wp (alone i) (fun _ _ => True) (Harmless s) p t

/-- `p` may fail, as long as it has written nothing yet. -/
def Diligent (values : Table String) (p : Op α) : Prop :=
  ∀ t, Holding values t → Op.wp (alone i) (fun _ _ => True) (Unwritten values) p t

variable {i}

section Diligent
variable {values : Table String}

theorem diligent_bind {p : Op α} {f : α → Op β} (first : Works (alone i) (Holding values) Fatal p)
    (rest : ∀ a, Diligent i values (f a)) : Diligent i values (p >>= f) := fun t same =>
  wp_seq (first t same) (fun a u later => rest a u later) fun _ _ h => h

theorem diligent_of_works {p : Op α} (h : Works (alone i) (Holding values) Fatal p) : Diligent i values p :=
  fun t same => wp_mono (h t same) (fun _ _ _ => trivial) fun _ _ failed => failed

theorem diligent_sure {p : Op α} {f : α → Op β} (first : Diligent i values p) (rest : ∀ a, Sure (f a)) :
    Diligent i values (p >>= f) := by
  refine fun t same => wp_seq (first t same) (fun a u _ => ?_) fun _ _ h => h
  have ends : Program.wp (alone i) (fun _ _ => True) (f a).run u := Program.wp_demonic_iff.2 fun _ _ _ => trivial
  exact wp_mono (wp_sure (rest a) ends) (fun _ _ h => h) fun _ _ => False.elim

theorem diligent_put {key value : String} : Diligent i values (ofStore (Program.put key value)) := by
  intro t same
  refine (wp_ofStore _).2 (Surroundings.alone_iff.2 fun r _ => ?_)
  cases r with
  | ok u => trivial
  | error e => exact ⟨same, nofun⟩

theorem diligent_delete {key : String} : Diligent i values (ofStore (Program.delete key)) := by
  intro t same
  refine (wp_ofStore _).2 (Surroundings.alone_iff.2 fun r _ => ?_)
  cases r with
  | ok u => trivial
  | error e => exact ⟨same, nofun⟩

theorem diligent_inContext {what : String} {p : Op α} (h : Diligent i values p) : Diligent i values (inContext what p) :=
  fun t same => (wp_inContext ..).2 (wp_mono (h t same) (fun _ _ h => h) fun _ _ failed => ⟨failed.1, failed.2.inContext⟩)

end Diligent

section Careful
variable {s : Surroundings}

/-- What comes first and changes nothing may fail. -/
theorem wp_bind_quiet {t : Surroundings} {p : Op α} {f : α → Op β} {ok : β → Surroundings → Prop} (untouched : Untouched s t)
    (first : Op.Only (·.quiet) p) (rest : ∀ a u, Untouched s u → Op.wp (alone i) ok (Harmless s) (f a) u) :
    Op.wp (alone i) ok (Harmless s) (p >>= f) t := by
  have quiet : Op.wp (alone i) (fun _ u => t.Untouched u) (fun _ u => t.Untouched u) p t := wp_either.2 (wp_quiet first)
  refine wp_seq quiet (fun a u later => rest a u (untouched.trans later)) fun e u later => ?_
  exact ⟨(untouched.trans later).values, fun _ => untouched.trans later⟩

theorem careful_of_diligent {p : Op α} (h : Diligent i s.values p) : Careful i s p := fun t untouched =>
  wp_mono (h t untouched.values) (fun _ _ h => h) fun _ _ => Harmless.of_unwritten

theorem careful_pure (a : α) : Careful i s (pure a) := fun _ _ => trivial

theorem careful_refuse (why : Refusal) : Careful i s (refuse why : Op α) :=
  fun _ untouched => ⟨untouched.values, fun _ => untouched⟩

theorem careful_refused {why : Refusal} {rest : α → Op β} : Careful i s (refuse why >>= rest) :=
  fun t untouched => (wp_bind ..).2 (careful_refuse (α := α) (i := i) why t untouched)

theorem careful_unless {b : Bool} {why : Refusal} {rest : Unit → Op β} (h : Careful i s (rest ())) :
    Careful i s (if b then refuse why >>= rest else rest ()) := by
  cases b
  · exact h
  · exact careful_refused

theorem careful_bind {p : Op α} {f : α → Op β} (first : Op.Only (·.quiet) p) (rest : ∀ a, Careful i s (f a)) :
    Careful i s (p >>= f) := fun _ untouched => wp_bind_quiet untouched first rest

/-- Something is looked for, and either it is there or there is none. -/
theorem careful_found {p : Op (Option α)} {f : Option α → Op β} (first : Op.Only (·.quiet) p)
    (missing : Careful i s (f none)) (found : ∀ a, Careful i s (f (some a))) : Careful i s (p >>= f) := by
  refine careful_bind first fun a? => ?_
  cases a? with
  | none => exact missing
  | some a => exact found a

theorem careful_load {decode : String → Except String α} {key : String} {f : Option α → Op β}
    (rest : ∀ a?, Loads decode s.values key a? → Careful i s (f a?)) : Careful i s (loadRecord decode key >>= f) := by
  intro t untouched
  refine wp_seq wp_loadRecord (fun a? u loaded => ?_) fun e u failed => ?_
  · exact rest a? (untouched.values ▸ loaded.2) u (untouched.trans loaded.1)
  · have later := untouched.trans failed.1
    exact ⟨later.values, fun _ => later⟩

theorem careful_loaded {decode : String → Except String α} {key : String} {f : Option α → Op β}
    (missing : Careful i s (f none)) (found : ∀ a, Loads decode s.values key (some a) → Careful i s (f (some a))) :
    Careful i s (loadRecord decode key >>= f) := by
  refine careful_load fun a? loads => ?_
  cases a? with
  | none => exact missing
  | some a => exact found a loads

end Careful

end Op

open Op

/-! ## Operations -/

section Operations
variable {s : Surroundings} {i : Nat}

theorem careful_quiet {p : Op α} (h : Op.Only (·.quiet) p) : Careful i s p := by
  have whole := careful_bind h fun a => careful_pure (s := s) (i := i) a
  rwa [bind_pure] at whole

namespace Fleet

theorem careful_registerCluster {name : String} {request : ClusterRequest} : Careful i s (registerCluster name request) := by
  refine careful_bind (only_ofRefusal _) fun _ => careful_load fun record? _ => ?_
  split
  all_goals
    try refine careful_unless ?_
    refine careful_bind (only_ofRefusal _) fun record => careful_of_diligent ?_
    refine diligent_bind (Connections.works_openUncached labour_alone) fun c => ?_
    refine diligent_bind (works_andAlways labour_alone (works_provisionCluster labour_alone.toil) ?_) fun logins => ?_
    · exact Connections.only_closeQuietly
    refine diligent_sure diligent_put fun _ => sure_bind (sure_lift _) fun closed => ?_
    cases closed <;> exact sure_pure _

theorem careful_deleteCluster {name : String} : Careful i s (deleteCluster name) :=
  careful_bind only_readCluster fun _ => careful_of_diligent (diligent_sure diligent_put fun _ => sure_flushed)

theorem careful_registerDatabase {cluster database : String} {request : DatabaseRequest} :
    Careful i s (registerDatabase cluster database request) := by
  refine careful_bind (only_ofRefusal _) fun _ => careful_bind (only_ofRefusal _) fun _ => ?_
  refine careful_loaded (careful_refuse _) fun c loaded => ?_
  refine careful_unless (careful_found only_loadRecord ?_ fun d => careful_refused)
  refine careful_bind (only_lift (only_chooseOwner rfl)) fun owner => careful_of_diligent ?_
  have storing : Diligent i s.values (enter cluster database owner) :=
    diligent_sure diligent_put fun _ => sure_pure _
  dsimp only
  split
  · exact diligent_bind (works_provisionDatabase labour_alone.toil (works_get ⟨c, loaded⟩)) fun _ => storing
  · exact storing

theorem careful_deleteDatabase {cluster database : String} : Careful i s (deleteDatabase cluster database) := by
  refine careful_found only_loadRecord (careful_refuse _) fun c => careful_unless ?_
  refine careful_found only_loadRecord (careful_refuse _) fun d => careful_unless ?_
  exact careful_of_diligent (diligent_sure diligent_put fun _ => sure_flushed)

end Fleet

namespace Reclaim

theorem careful_purgeCluster {name : String} : Careful i s (purgeCluster name) :=
  careful_bind only_readCluster fun _ => careful_of_diligent (diligent_sure diligent_delete fun _ => Fleet.sure_flushed)

theorem careful_purgeDatabase {cluster database : String} : Careful i s (purgeDatabase cluster database) :=
  careful_bind only_readDatabase fun _ => careful_of_diligent (diligent_sure diligent_delete fun _ => Fleet.sure_flushed)

end Reclaim

namespace Replicas

theorem careful_cloneCluster {source : String} {request : CloneRequest} : Careful i s (cloneCluster source request) := by
  refine careful_bind only_checkClone fun record => careful_of_diligent ?_
  refine diligent_bind (works_tryManagement labour_alone) fun warnings => ?_
  refine diligent_bind (works_inContext labour_alone.toil (Connections.works_openUncached labour_alone)) fun root => ?_
  refine diligent_bind (works_andAlways labour_alone (works_rotateBoth labour_alone.toil) ?_) fun passwords => ?_
  · exact Connections.only_closeQuietly
  exact diligent_sure (diligent_inContext diligent_put) fun _ => sure_bind (sure_lift _) fun _ => sure_pure _

end Replicas

namespace RoleTemplates

theorem careful_writeRole {limits : LeaseLimits} {name : String} {request : RoleRequest} :
    Careful i s (writeRole limits name request) := by
  refine careful_bind (only_ofRefusal _) fun _ => careful_unless (careful_of_diligent ?_)
  exact diligent_sure diligent_put fun _ => sure_pure _

end RoleTemplates

namespace TagIndex

theorem careful_write {cluster : String} {database : Option String} {tags : Table String} :
    Careful i s (write cluster database tags) := by
  have storing : Careful i s (enter cluster database tags) :=
    careful_bind (only_ofRefusal _) fun _ => careful_of_diligent (diligent_sure diligent_put fun _ => sure_pure _)
  refine careful_found only_loadRecord (careful_refuse _) fun c => ?_
  cases database with
  | none => exact storing
  | some d => exact careful_found only_loadRecord careful_refused fun d => storing

theorem careful_erase {id : String} : Careful i s (erase id) := by
  unfold erase
  exact careful_unless (careful_of_diligent diligent_delete)

end TagIndex

namespace Credentials

theorem careful_issueCredential {settings : Settings} {cluster database role displayName : String} :
    Careful i s (issueCredential settings cluster database role displayName) := by
  refine careful_loaded (careful_refuse _) fun c loaded => ?_
  refine careful_unless (careful_found only_loadRecord (careful_refuse _) fun d => ?_)
  refine careful_unless (careful_found only_loadRecord (careful_refuse _) fun r => ?_)
  have drawing {c : Call} (quiet : c.quiet) : Op.Only (·.quiet) (liftM (Program.call c .done)) :=
    only_lift (Program.only_call quiet)
  refine careful_bind (drawing rfl) fun _ => careful_bind (drawing rfl) fun _ => careful_bind (drawing rfl) fun _ => ?_
  refine careful_of_diligent (diligent_bind ?_ fun t => ?_)
  · exact Connections.works_startManagement labour_alone.toil (works_get ⟨c, loaded⟩)
  refine diligent_bind (works_lift labour_alone (Fleet.only_runEach ..)) fun ran => diligent_of_works ?_
  cases ran with
  | error e => exact works_bind (works_lift labour_alone Fleet.only_rollbackQuietly) fun _ => works_throw nofun
  | ok u =>
    refine works_bind (works_ofSql (labour_alone.toil.commit t)) fun _ => ?_
    exact works_bind (works_lift labour_alone (Program.only_call rfl)) fun _ => works_pure _

theorem careful_renewCredential {settings : Settings} {secret : LeaseSecret} {increment : Span} {issued : Instant} :
    Careful i s (renewCredential settings secret increment issued) := by
  refine careful_found only_loadRecord (careful_refuse _) fun role => ?_
  refine careful_loaded (careful_refuse _) fun c loaded => ?_
  refine careful_unless (careful_found only_loadRecord (careful_refuse _) fun d => ?_)
  refine careful_unless (careful_bind (only_lift (Program.only_call rfl)) fun now => careful_of_diligent ?_)
  dsimp only
  split
  · refine diligent_of_works (works_bind ?_ fun _ => ?_)
    · exact Connections.works_onManagement (works_get ⟨c, loaded⟩) fun _ => labour_alone.toil.execute _ _
    · exact works_bind (works_lift labour_alone (Program.only_call rfl)) fun _ => works_pure _
  · exact diligent_of_works (works_pure _)

theorem careful_revokeCredential {secret : LeaseSecret} : Careful i s (revokeCredential secret) := by
  refine careful_bind only_revocationPlan fun plan => careful_loaded (careful_refuse _) fun c loaded => ?_
  refine careful_found only_loadRecord (careful_refuse _) fun d => ?_
  have counting (warnings : List Warning) : Works (alone i) (Holding s.values) Fatal (countRevoked plan.warnings warnings) :=
    works_bind (works_lift labour_alone (Program.only_call rfl)) fun _ => works_pure _
  refine careful_of_diligent (diligent_of_works ?_)
  dsimp only
  split
  · refine works_bind (works_bind (Connections.works_openUncached labour_alone) fun conn => ?_) counting
    refine works_andAlways labour_alone ?_ Connections.only_closeQuietly
    exact works_bind (works_ofSql (labour_alone.toil.start conn)) fun t => works_revokeWithin labour_alone.toil
  · refine works_bind (Connections.works_startManagement labour_alone.toil (works_get ⟨c, loaded⟩)) fun t => ?_
    exact works_bind (works_revokeWithin labour_alone.toil) counting

end Credentials

/-! ## Requests -/

namespace Router

/-- `p` is careful, and answers without an error when it is done. -/
def Answers (i : Nat) (s : Surroundings) (p : Op Response) : Prop :=
  ∀ t, Untouched s t → Op.wp (alone i) (fun r _ => r.error = none) (Harmless s) p t

theorem answers_map {p : Op α} {f : α → Response} (h : Careful i s p) (plain : ∀ a, (f a).error = none) :
    Answers i s (p >>= fun a => pure (f a)) := fun t untouched =>
  wp_seq (h t untouched) (fun a _ _ => plain a) fun _ _ h => h

theorem answers_bind {p : Op α} {f : α → Op Response} (first : Op.Only (·.quiet) p) (rest : ∀ a, Answers i s (f a)) :
    Answers i s (p >>= f) := fun _ untouched => wp_bind_quiet untouched first rest

theorem answers_refuse {why : Refusal} : Answers i s (refuse why) :=
  fun _ untouched => ⟨untouched.values, fun _ => untouched⟩

theorem answers_quiet {p : Op α} {f : α → Response} (h : Op.Only (·.quiet) p) (plain : ∀ a, (f a).error = none) :
    Answers i s (p >>= fun a => pure (f a)) :=
  answers_map (careful_quiet h) plain

theorem answers_writeTags {data : Fields.Data} : Answers i s (writeTags data) := by
  refine answers_bind (only_ofRefusal _) fun cluster? => ?_
  split
  · refine answers_bind (only_ofRefusal _) fun database => answers_bind (only_ofRefusal _) fun pairs => ?_
    exact answers_map TagIndex.careful_write fun _ => rfl
  · exact answers_refuse

theorem answers_dispatch {settings : Settings} {r : Request} : Answers i s (dispatch settings r) := by
  unfold dispatch
  dsimp only
  split
  · exact fun t untouched => (wp_bind ..).2 (answers_refuse (i := i) t untouched)
  split
  case h_1 => exact answers_quiet (only_lift (Program.only_call rfl)) fun _ => rfl
  case h_2 => exact answers_writeTags
  case h_3 => exact answers_bind (only_ofRefusal _) fun query => answers_quiet TagIndex.only_lookup fun _ => rfl
  case h_4 => exact answers_quiet TagIndex.only_listing fun _ => rfl
  case h_5 => exact answers_map TagIndex.careful_erase fun _ => rfl
  case h_6 => exact answers_quiet only_children fun _ => rfl
  case h_7 => exact answers_quiet Fleet.only_readCluster fun _ => rfl
  case h_8 => exact answers_bind (only_ofRefusal _) fun _ => answers_map Fleet.careful_registerCluster fun _ => rfl
  case h_9 => exact answers_map Fleet.careful_deleteCluster fun _ => rfl
  case h_10 => exact answers_quiet only_children fun _ => rfl
  case h_11 => exact answers_bind (only_ofRefusal _) fun _ => answers_map Replicas.careful_cloneCluster fun _ => rfl
  case h_12 => exact answers_bind (only_ofRefusal _) fun _ => answers_map Fleet.careful_registerDatabase fun _ => rfl
  case h_13 => exact answers_quiet Fleet.only_readDatabase fun _ => rfl
  case h_14 => exact answers_map Fleet.careful_deleteDatabase fun _ => rfl
  case h_15 => exact answers_quiet only_children fun _ => rfl
  case h_16 => exact answers_quiet RoleTemplates.only_readRole fun _ => rfl
  case h_17 => exact answers_bind (only_ofRefusal _) fun _ => answers_map RoleTemplates.careful_writeRole fun _ => rfl
  case h_18 => exact answers_map (careful_of_diligent diligent_delete) fun _ => rfl
  case h_19 => exact answers_map Credentials.careful_issueCredential fun _ => rfl
  case h_20 => exact answers_quiet Reclaim.only_listClusters fun _ => rfl
  case h_21 => exact answers_quiet Reclaim.only_listClusters fun _ => rfl
  case h_22 => exact answers_quiet Reclaim.only_readCluster fun _ => rfl
  case h_23 => exact answers_quiet Reclaim.only_listDatabases fun _ => rfl
  case h_24 => exact answers_map Reclaim.careful_purgeCluster fun _ => rfl
  case h_25 => exact answers_quiet Reclaim.only_readDatabase fun _ => rfl
  case h_26 => exact answers_map Reclaim.careful_purgeDatabase fun _ => rfl
  case h_27 => exact answers_refuse

/-- A refusal turned into a response is a response with an error, and there is no other one. -/
theorem wp_answering {p : Op Response} (h : Answers i s p) :
    Op.wp (alone i) (fun r t => r.error.isSome → s.Untouched t) (fun _ t => t.values = s.values) (answering p) s := by
  refine Program.wp_seq (h s (.refl s)) fun result t ended => ?_
  cases result with
  | ok r =>
    have plain : r.error = none := ended
    show r.error.isSome → s.Untouched t
    rw [plain]
    nofun
  | error e =>
    obtain ⟨values, untouched⟩ := ended
    cases e with
    | refused why => exact fun _ => untouched ⟨why, rfl⟩
    | store e => exact values
    | sql e => exact values
    | serialization report => exact values
    | internal report => exact values

end Router

end Operations

/-- What a host may call. -/
inductive HostCall where
  | handle (settings : Settings) (request : Request)
  | renew (settings : Settings) (internal : Table Json) (increment : Span) (issued : Instant)
  | revoke (internal : Table Json)

namespace HostCall

def program : HostCall → Program (Except BrokerError Response)
  | handle settings request => (Router.handle settings request).run
  | renew settings internal increment issued => (Router.renew settings internal increment issued).run
  | revoke internal => (Router.revoke internal).run

/-- A call fails without a response, or with a response that carries an error. -/
def Fails : Except BrokerError Response → Prop
  | .ok r => r.error.isSome
  | .error _ => True

/-- Whatever answers a call gets on its way: if it fails, the values of the store are what they were, and if it is
    refused, nothing was opened, no server was told anything, and the cache and the metrics are what they were. -/
theorem failed_call_changes_nothing (call : HostCall) (i : Nat) (s t : Surroundings)
    (result : Except BrokerError Response) (run : Surroundings.Runs i call.program s result t) :
    (Fails result → t.values = s.values) ∧
      ∀ r, result = .ok r → r.error.isSome → t.values = s.values ∧ t.broker = s.broker ∧ t.heard = s.heard := by
  have answered {p : Op Response} (careful : Router.Answers i s p)
      (same : call.program = (Router.answering p).run) :
      Op.Ended (fun r t => r.error.isSome → s.Untouched t) (fun _ t => t.values = s.values) result t :=
    Program.wp_demonic_iff.1 (Router.wp_answering careful) result t (same ▸ run)
  have ended : Op.Ended (fun r t => r.error.isSome → s.Untouched t) (fun _ t => t.values = s.values) result t := by
    cases call with
    | handle settings request => exact answered Router.answers_dispatch rfl
    | renew settings internal increment issued =>
      refine answered (Router.answers_bind (only_ofRefusal _) fun secret => ?_) rfl
      exact Router.answers_map Credentials.careful_renewCredential fun _ => rfl
    | revoke internal =>
      refine answered (Router.answers_bind (only_ofRefusal _) fun secret => ?_) rfl
      exact Router.answers_map Credentials.careful_revokeCredential fun _ => rfl
  cases result with
  | ok r =>
    refine ⟨fun failed => (ended failed).values, ?_⟩
    rintro _ ⟨⟩ failed
    exact ⟨(ended failed).values, (ended failed).broker, (ended failed).heard⟩
  | error e => exact ⟨fun _ => ended, nofun⟩

/-- Where a cluster was deleted, to delete it is refused. -/
theorem refuses_deletion {i : Nat} {s : Surroundings} {text : String} {c : ClusterRecord}
    (stored : s.values.get? (StoreKeys.cluster "old") = some text)
    (decoded : ClusterRecord.decode text = .ok { c with disabled := true }) :
    Program.wp (Surroundings.lucky i) (fun result _ => ∃ r, result = .ok r ∧ r.error.isSome)
      (handle {} { operation := .delete, path := "cluster/old" }).program s := by
  have parts : Router.segments "cluster/old" = ["cluster", "old"] := by decide +kernel
  have refused : Op.wp (Surroundings.lucky i) (fun _ _ => False) (fun e _ => e = .refused (.clusterDeleted "old"))
      (Router.dispatch {} { operation := .delete, path := "cluster/old" }) s := by
    unfold Router.dispatch
    rw [parts]
    refine (Op.wp_bind ..).2 ((Op.wp_bind ..).2 ((Op.wp_bind ..).2 ((Op.wp_bind ..).2 ((Op.wp_ofStore _).2 ?_))))
    refine Surroundings.lucky_iff.2 ⟨.ok (some text), Surroundings.allows_fetch stored, ?_⟩
    dsimp only [Program.wp, Except.mapError, Op.Ended]
    rw [decoded]
    rfl
  refine (Program.wp_bind ..).2 (Program.wp_mono (fun result t ended => ?_) refused)
  cases result with
  | ok r => exact ended.elim
  | error e =>
    subst ended
    exact ⟨.ofRefusal (.clusterDeleted "old"), rfl, rfl⟩

open ClusterRecord (exampleRecord)

def exampleConnection : Connection := ⟨0, exampleRecord.target .management "postgres"⟩

/-- A cluster is in use and has a connection, another one was deleted. -/
def inService : Surroundings where
  values := (Table.empty.insert (StoreKeys.cluster "main") exampleRecord.encode).insert (StoreKeys.cluster "old")
    ({ exampleRecord with disabled := true } : ClusterRecord).encode
  broker := (BrokerState.empty.keep ⟨.management, "main", none⟩ 0 exampleConnection).2
  history := [⟨0, .connect exampleConnection.target, .ok exampleConnection⟩]

/-- A cluster that was deleted cannot be deleted again, and nothing comes of the attempt. -/
theorem refused_deletion_changes_nothing : ∃ r t,
    Surroundings.Runs 0 (handle {} { operation := .delete, path := "cluster/old" }).program inService (.ok r) t ∧
      r.error.isSome ∧ inService.broker.cache.entries = [(⟨.management, "main", none⟩, exampleConnection)] ∧
      t.values = inService.values ∧ t.broker = inService.broker ∧ t.heard = inService.heard := by
  have refuses := refuses_deletion (i := 0) (s := inService) (Table.get?_insert_self ..) (ClusterRecord.decode_encode _)
  obtain ⟨_, t, run, r, rfl, failed⟩ := Program.wp_angelic_iff.1 refuses
  exact ⟨r, t, run, failed, rfl, (failed_call_changes_nothing _ 0 _ t (.ok r) run).2 r rfl failed⟩

end HostCall

end LeaseBroker
