import LeaseBroker.Proofs.HostRequests

/-!
For which reasons operations are refused. Whatever the store and the servers
answer, a command is refused for a reason of its own (`Refusal.operational`):
a name, a record, a field. That a path leads nowhere is said by the router
alone, and no other message reads like that one.
-/
namespace LeaseBroker

variable {α β : Type}

/-! ## Reasons -/

namespace Refusal

/-- Whether an operation may be refused for this reason: not that a path leads nowhere, nor in words of a caller's own. -/
def operational : Refusal → Bool
  | unsupportedPath .. => false
  | worded .. => false
  | _ => true

/-- What the message begins with where a path leads nowhere. -/
def nowhere : List Char := "unsupported path".toList

theorem nowhere_prefix_message (operation : Operation) (path : String) :
    nowhere <+: (unsupportedPath operation path).message.toList := by
  have words : "unsupported path: " = "unsupported path" ++ ": " := by decide
  have whole : (unsupportedPath operation path).message = "unsupported path" ++ (": " ++ operation.text ++ " " ++ path) := by
    dsimp only [message]
    simp only [words, String.append_assoc]
  rw [whole, String.toList_append]
  exact List.prefix_append ..

/-- Whether a text begins with another letter than that message. -/
def beginsApart (s : String) : Bool := s.toList.head?.any (· != 'u')

theorem beginsApart_append {s t : String} (first : beginsApart s) : beginsApart (s ++ t) := by
  unfold beginsApart at *
  rw [String.toList_append]
  cases same : s.toList with
  | nil =>
    rw [same] at first
    cases first
  | cons c cs =>
    rw [same] at first
    exact first

/-- The other messages begin with fixed words, and none of these with that letter. -/
theorem beginsApart_message {why : Refusal} (own : why.operational) : beginsApart why.message := by
  cases why with
  | unsupportedPath => cases own
  | worded => cases own
  | _ =>
    dsimp only [message]
    -- At default transparency a fixed text would be taken apart too.
    repeat with_reducible refine beginsApart_append ?_
    decide

theorem not_nowhere_prefix_message {why : Refusal} (own : why.operational) : ¬nowhere <+: why.message.toList := by
  intro begins
  have apart := beginsApart_message own
  obtain ⟨rest, same⟩ := begins
  rw [beginsApart, ← same] at apart
  cases apart

end Refusal

/-- Whether an operation may end in this error. -/
def BrokerError.operational : BrokerError → Bool
  | refused why => why.operational
  | _ => true

/-! ## Checks -/

/-- What is checked is refused only for reasons of an operation. -/
def OperationalCheck (r : Except Refusal α) : Prop := ∀ why, r = .error why → why.operational

theorem check_ok {a : α} : OperationalCheck (.ok a) := nofun

theorem check_error {why : Refusal} (own : why.operational) : OperationalCheck (.error why : Except Refusal α) := by
  rintro _ ⟨⟩
  exact own

theorem check_bind {r : Except Refusal α} {f : α → Except Refusal β} (first : OperationalCheck r)
    (rest : ∀ a, OperationalCheck (f a)) : OperationalCheck (r >>= f) := by
  cases r with
  | ok a => exact rest a
  | error why => exact check_error (first why rfl)

/-- On the way something is refused, or it goes on. -/
theorem check_unless {b : Bool} {why : Refusal} {rest : Unit → Except Refusal β} (own : why.operational)
    (passed : OperationalCheck (rest ())) : OperationalCheck (if b then throw why >>= rest else rest ()) := by
  cases b with
  | false => exact passed
  | true => exact check_error own

theorem check_mapM {f : α → Except Refusal β} (h : ∀ a, OperationalCheck (f a)) (as : List α) :
    OperationalCheck (as.mapM f) := by
  induction as with
  | nil => exact check_ok
  | cons a as ih =>
    rw [List.mapM_cons]
    exact check_bind (h a) fun _ => check_bind ih fun _ => check_ok

theorem check_forM {f : α → Except Refusal PUnit} (h : ∀ a, OperationalCheck (f a)) (as : List α) :
    OperationalCheck (as.forM f) := by
  induction as with
  | nil => exact check_ok
  | cons a as ih => exact check_bind (h a) fun _ => ih

theorem check_checkName {kind name : String} : OperationalCheck (checkName kind name) := by
  unfold checkName
  split
  · exact check_ok
  · exact check_error rfl

theorem check_checkTags {tags : Table String} : OperationalCheck (checkTags tags) := by
  unfold checkTags
  refine check_unless rfl (check_forM (fun e => check_unless rfl ?_) _)
  dsimp only
  split
  · exact check_error rfl
  · exact check_ok

theorem ClusterRequest.check_validate {r : ClusterRequest} : OperationalCheck r.validate := by
  unfold validate
  refine check_unless rfl ?_
  cases validPort? r.port with
  | none => exact check_error rfl
  | some port =>
    refine check_unless rfl (check_unless rfl ?_)
    cases TlsMode.ofText? r.tlsMode with
    | none => exact check_error rfl
    | some mode => exact check_ok

namespace Fields

variable {data : Data} {key : String}

theorem check_string : OperationalCheck (string data key) := by
  unfold string
  split <;> first | exact check_ok | exact check_error rfl

theorem check_stringOr {default : String} : OperationalCheck (stringOr data key default) :=
  check_bind check_string fun _ => check_ok

theorem check_intOr {default : Int} : OperationalCheck (intOr data key default) := by
  unfold intOr
  repeat' split
  all_goals first | exact check_ok | exact check_error rfl

theorem check_uintOr {default : UInt32} : OperationalCheck (uintOr data key default) := by
  refine check_bind check_intOr fun n => ?_
  split
  · exact check_ok
  · exact check_error rfl

theorem check_boolOr {default : Bool} : OperationalCheck (boolOr data key default) := by
  unfold boolOr
  repeat' split
  all_goals first | exact check_ok | exact check_error rfl

theorem check_duration : OperationalCheck (duration data key) := by
  unfold duration
  repeat' split
  all_goals first | exact check_ok | exact check_error rfl

theorem check_stringList : OperationalCheck (stringList data key) := by
  unfold stringList
  split
  · exact check_ok
  · exact check_ok
  · refine check_mapM (fun v => ?_) _
    unfold element
    split
    · exact check_ok
    · exact check_error rfl
  · exact check_error rfl

theorem check_pairs : OperationalCheck (pairs data key) := by
  unfold pairs
  split
  · exact check_ok
  · refine check_bind (check_mapM (fun field => ?_) _) fun _ => check_ok
    unfold pair
    split
    · exact check_ok
    · exact check_error rfl
  · exact check_error rfl

end Fields

namespace Router

open Fields

variable {data : Data}

theorem check_clusterRequest : OperationalCheck (clusterRequest data) :=
  check_bind check_stringOr fun _ => check_bind check_intOr fun _ => check_bind check_stringOr fun _ =>
    check_bind check_stringOr fun _ => check_bind check_uintOr fun _ => check_bind check_uintOr fun _ =>
      check_bind check_duration fun _ => check_bind check_stringOr fun _ => check_bind check_stringOr fun _ => check_ok

theorem check_cloneRequest : OperationalCheck (cloneRequest data) :=
  check_bind check_stringOr fun _ => check_bind check_stringOr fun _ => check_bind check_intOr fun _ =>
    check_bind check_boolOr fun _ => check_ok

theorem check_databaseRequest : OperationalCheck (databaseRequest data) :=
  check_bind check_stringOr fun _ => check_bind check_boolOr fun _ => check_bind check_boolOr fun _ => check_ok

theorem check_roleRequest : OperationalCheck (roleRequest data) :=
  check_bind check_duration fun _ => check_bind check_duration fun _ => check_bind check_stringList fun _ =>
    check_bind check_stringList fun _ => check_ok

theorem check_requiredPairs : OperationalCheck (requiredPairs data) := by
  refine check_bind check_pairs fun pairs? => ?_
  cases pairs? with
  | none => exact check_error rfl
  | some pairs => exact check_ok

theorem check_tagQuery : OperationalCheck (tagQuery data) := by
  unfold tagQuery
  refine check_unless rfl (check_unless rfl (check_bind check_string fun kind? => ?_))
  cases kind? with
  | none => exact check_error rfl
  | some kind =>
    refine check_bind ?_ fun target => check_bind check_requiredPairs fun _ => check_ok
    unfold TagTarget.ofText
    split
    · exact check_ok
    · exact check_ok
    · exact check_error rfl

theorem check_askedTags : OperationalCheck (askedTags data) := by
  refine check_bind check_string fun cluster? => ?_
  cases cluster? with
  | none => exact check_error rfl
  | some cluster => exact check_bind check_string fun _ => check_bind check_requiredPairs fun _ => check_ok

end Router

/-! ## Operations -/

/-- Whatever calls are answered. -/
abbrev Program.anyhow : Program.Demands Unit := Program.demonic fun _ _ _ _ => True

namespace Op

open Program (anyhow)

/-- Whatever `p` is answered, it is refused only for reasons of an operation. -/
abbrev Operational (p : Op α) : Prop := Works anyhow (fun _ => True) (·.operational) p

/-- Work on servers is not refused. -/
theorem labour_anyhow : Labour anyhow (fun _ => True) (·.operational) where
  call _ _ next := fun r t _ => next r t trivial fun _ _ => rfl
  context {what e} own := by cases e <;> exact own

theorem toil_anyhow : Toil anyhow (fun _ => True) (·.operational) := labour_anyhow.toil

theorem yields_of_operational {p : Op α} (h : Operational p) :
    Program.Yields (fun r => ∀ e, r = .error e → e.operational) p.run := by
  have ends {γ : Type} {Q : γ → Prop} {q : Program γ} (h : Program.wp anyhow (fun r _ => Q r) q ()) : q.Yields Q := by
    induction q with
    | done r => exact h
    | call c next ih => exact fun r => ih r (h r () trivial)
  refine ends (Program.wp_mono (fun r _ ended => ?_) (h () trivial))
  rintro e rfl
  exact ended.2

theorem operational_refuse {why : Refusal} (own : why.operational) : Operational (refuse why : Op α) := works_throw own

/-- A refusal on the way is the end. -/
theorem operational_refused {why : Refusal} {rest : α → Op β} (own : why.operational) :
    Operational (refuse why >>= rest) := fun _ _ => (wp_bind ..).2 ⟨trivial, own⟩

theorem operational_unless {b : Bool} {why : Refusal} {rest : Unit → Op β} (own : why.operational)
    (passed : Operational (rest ())) : Operational (if b then refuse why >>= rest else rest ()) := by
  cases b with
  | false => exact passed
  | true => exact operational_refused own

theorem operational_ofRefusal {r : Except Refusal α} (checked : OperationalCheck r) : Operational (ofRefusal r) := by
  cases r with
  | ok a => exact works_pure a
  | error why => exact works_throw (checked why rfl)

theorem operational_lift (p : Program α) : Operational (liftM p : Op α) :=
  fun _ _ => (wp_lift _).2 (Program.wp_demonic_iff.2 fun _ _ _ => trivial)

theorem operational_ofStore (p : Program (Except StoreError α)) : Operational (ofStore p) := by
  refine fun _ _ => (wp_ofStore _).2 (Program.wp_demonic_iff.2 fun r _ _ => ?_)
  cases r with
  | ok a => trivial
  | error e => exact ⟨trivial, rfl⟩

theorem operational_loadRecord {decode : String → Except String α} {key : String} :
    Operational (loadRecord decode key) := by
  refine works_bind (operational_ofStore _) fun text? => ?_
  cases text? with
  | none => exact works_pure none
  | some text =>
    dsimp only
    cases decode text with
    | ok record => exact works_pure (some record)
    | error report => exact works_throw rfl

theorem operational_loaded {decode : String → Except String α} {key : String} {f : Option α → Op β}
    (missing : Operational (f none)) (found : ∀ a, Operational (f (some a))) :
    Operational (loadRecord decode key >>= f) := works_found operational_loadRecord missing found

end Op

open Op

theorem Connections.operational_get (key : ConnectionKey) : Operational (get key) := by
  refine fun s _ => wp_getWithin (fun _ _ => True) (fun _ _ _ => True) (fun _ _ _ _ => True) (fun _ _ => ⟨trivial, rfl⟩)
    (fun _ _ _ found _ _ => ?_) (fun _ _ s _ => ?_) (fun _ _ _ _ _ placed _ _ => ?_) attempts trivial
  · cases found <;> trivial
  · exact operational_loaded (operational_refuse rfl) (fun _ => works_openUncached labour_anyhow) s trivial
  · cases placed with
    | kept => trivial
    | present _ | superseded => exact Program.wp_demonic_iff.2 fun _ _ _ => trivial

theorem Connections.operational_startManagement {cluster database : String} :
    Operational (startManagement cluster database) :=
  works_startManagement toil_anyhow fun key _ => operational_get key

/-- A connection is used and closed, whatever came of it. -/
theorem operational_used {p : Op α} {always : Program Unit} (h : Operational p) : Operational (p.andAlways always) := by
  refine fun s _ => (wp_andAlways ..).2 (wp_mono (h s trivial) (fun _ _ _ => ?_) fun e _ failed => ?_)
  · exact Program.wp_demonic_iff.2 fun _ _ _ => trivial
  · exact Program.wp_demonic_iff.2 fun _ _ _ => ⟨trivial, failed.2⟩

namespace Fleet

variable {cluster name : String}

theorem operational_flushed {what : Eviction} {outcome : Outcome Unit} : Operational (flushed what outcome) := by
  refine works_bind (operational_lift _) fun closed => ?_
  cases closed <;> exact works_pure _

theorem operational_readCluster : Operational (readCluster name) :=
  operational_loaded (operational_refuse rfl) fun c => operational_unless rfl (works_pure c)

theorem operational_listClusters : Operational listClusters := works_bind (operational_ofStore _) fun _ => works_pure _

theorem operational_listDatabases : Operational (listDatabases cluster) :=
  works_bind (operational_ofStore _) fun _ => works_pure _

theorem operational_registerCluster {request : ClusterRequest} : Operational (registerCluster name request) := by
  have enrolling : Operational (enrol name request) := by
    refine works_bind (operational_ofRefusal ClusterRequest.check_validate) fun record => ?_
    refine works_bind (Connections.works_openUncached labour_anyhow) fun c => ?_
    refine works_bind (operational_used (works_provisionCluster toil_anyhow)) fun logins => ?_
    refine works_bind (operational_ofStore _) fun _ => works_bind (operational_lift _) fun closed => ?_
    cases closed <;> exact works_pure _
  refine works_bind (operational_ofRefusal check_checkName) fun _ => ?_
  exact operational_loaded enrolling fun c => operational_unless rfl enrolling

theorem operational_deleteCluster : Operational (deleteCluster name) :=
  works_bind operational_readCluster fun _ => works_bind (operational_ofStore _) fun _ => operational_flushed

theorem operational_registerDatabase {request : DatabaseRequest} :
    Operational (registerDatabase cluster name request) := by
  have saving (owner : String) : Operational (enter cluster name owner) :=
    works_bind (operational_ofStore _) fun _ => works_pure _
  refine works_bind (operational_ofRefusal check_checkName) fun _ => ?_
  refine works_bind (operational_ofRefusal check_checkName) fun _ => ?_
  refine operational_loaded (operational_refuse rfl) fun c => operational_unless rfl ?_
  refine operational_loaded ?_ fun d => operational_refused rfl
  refine works_bind (operational_lift _) fun owner => ?_
  dsimp only
  split
  · refine works_bind (works_provisionDatabase toil_anyhow fun key _ => ?_) fun _ => saving owner
    exact Connections.operational_get key
  · exact saving owner

theorem operational_readDatabase : Operational (readDatabase cluster name) :=
  operational_loaded (operational_refuse rfl) fun _ => operational_unless rfl
    (operational_loaded (operational_refuse rfl) fun d => operational_unless rfl (works_pure d))

theorem operational_deleteDatabase : Operational (deleteDatabase cluster name) := by
  refine operational_loaded (operational_refuse rfl) fun c => operational_unless rfl ?_
  refine operational_loaded (operational_refuse rfl) fun d => operational_unless rfl ?_
  exact works_bind (operational_ofStore _) fun _ => operational_flushed

end Fleet

namespace Reclaim

variable {cluster name : String}

theorem operational_deletedAmong {load : String → Op (Option α)} {disabled : α → Bool}
    (loading : ∀ name, Operational (load name)) (names : List String) :
    Operational (deletedAmong load disabled names) := by
  induction names with
  | nil => exact works_pure []
  | cons name names ih => exact works_bind (loading name) fun _ => works_bind ih fun _ => works_pure _

theorem operational_listClusters : Operational listClusters :=
  works_bind Fleet.operational_listClusters fun _ => operational_deletedAmong (fun _ => operational_loadRecord) _

theorem operational_listDatabases : Operational (listDatabases cluster) :=
  works_bind Fleet.operational_listDatabases fun _ => operational_deletedAmong (fun _ => operational_loadRecord) _

theorem operational_readCluster : Operational (readCluster name) :=
  operational_loaded (operational_refuse rfl) fun c => operational_unless rfl (works_pure c)

theorem operational_purgeCluster : Operational (purgeCluster name) :=
  works_bind operational_readCluster fun _ => works_bind (operational_ofStore _) fun _ => Fleet.operational_flushed

theorem operational_readDatabase : Operational (readDatabase cluster name) :=
  operational_loaded (operational_refuse rfl) fun d => operational_unless rfl (works_pure d)

theorem operational_purgeDatabase : Operational (purgeDatabase cluster name) :=
  works_bind operational_readDatabase fun _ => works_bind (operational_ofStore _) fun _ => Fleet.operational_flushed

end Reclaim

namespace Replicas

variable {source : String} {request : CloneRequest}

theorem operational_checkClone : Operational (checkClone source request) := by
  unfold checkClone
  refine operational_unless rfl ?_
  cases validPort? request.port with
  | none => exact operational_refuse rfl
  | some port =>
    refine operational_loaded (operational_refuse rfl) fun c => operational_unless rfl (operational_unless rfl ?_)
    refine works_bind (operational_ofRefusal check_checkName) fun _ => ?_
    exact operational_loaded (works_pure _) fun t => operational_refused rfl

theorem operational_cloneCluster : Operational (cloneCluster source request) := by
  refine works_bind operational_checkClone fun record => works_bind (works_tryManagement labour_anyhow) fun warnings => ?_
  refine works_bind (works_inContext toil_anyhow (Connections.works_openUncached labour_anyhow)) fun root => ?_
  refine works_bind (operational_used (works_rotateBoth toil_anyhow)) fun passwords => ?_
  refine works_bind (works_inContext toil_anyhow (operational_ofStore _)) fun _ => ?_
  exact works_bind (operational_lift _) fun _ => works_pure _

end Replicas

namespace RoleTemplates

variable {name : String}

theorem operational_writeRole {limits : LeaseLimits} {request : RoleRequest} :
    Operational (writeRole limits name request) := by
  refine works_bind (operational_ofRefusal check_checkName) fun _ => operational_unless rfl ?_
  exact works_bind (operational_ofStore _) fun _ => works_pure _

theorem operational_readRole : Operational (readRole name) :=
  operational_loaded (operational_refuse rfl) fun r => works_pure r

theorem operational_listRoles : Operational listRoles := works_bind (operational_ofStore _) fun _ => works_pure _

end RoleTemplates

namespace TagIndex

theorem operational_write {cluster : String} {database : Option String} {tags : Table String} :
    Operational (write cluster database tags) := by
  have storing : Operational (enter cluster database tags) :=
    works_bind (operational_ofRefusal check_checkTags) fun _ => works_bind (operational_ofStore _) fun _ => works_pure _
  refine operational_loaded (operational_refuse rfl) fun c => ?_
  cases database with
  | none => exact storing
  | some d => exact operational_loaded (operational_refused rfl) fun _ => storing

theorem operational_load {target : TagTarget} : Operational (load target) := by
  have each (ids : List String) : Operational (loadEach ids) := by
    induction ids with
    | nil => exact works_pure []
    | cons id ids ih => exact works_bind operational_loadRecord fun _ => works_bind ih fun _ => works_pure _
  exact works_bind (operational_ofStore _) fun _ => each _

theorem operational_lookup {target : TagTarget} {query : Table String} : Operational (lookup target query) :=
  works_bind (operational_ofRefusal check_checkTags) fun _ => works_bind operational_load fun _ => works_pure _

theorem operational_listing : Operational listing :=
  works_bind operational_load fun _ => works_bind operational_load fun _ => works_pure _

theorem operational_erase {id : String} : Operational (erase id) := by
  unfold erase
  exact operational_unless rfl (operational_ofStore _)

end TagIndex

namespace Credentials

variable {settings : Settings}

theorem operational_issueCredential {cluster database role displayName : String} :
    Operational (issueCredential settings cluster database role displayName) := by
  refine operational_loaded (operational_refuse rfl) fun c => operational_unless rfl ?_
  refine operational_loaded (operational_refuse rfl) fun d => operational_unless rfl ?_
  refine operational_loaded (operational_refuse rfl) fun r => ?_
  refine works_bind (operational_lift _) fun id => works_bind (operational_lift _) fun password => ?_
  refine works_bind (operational_lift _) fun now => works_bind Connections.operational_startManagement fun t => ?_
  refine works_bind (operational_lift _) fun ran => ?_
  cases ran with
  | error e => exact works_bind (operational_lift _) fun _ => works_throw rfl
  | ok u =>
    refine works_bind (works_ofSql (toil_anyhow.commit t)) fun _ => ?_
    exact works_bind (operational_lift _) fun _ => works_pure _

theorem operational_renewCredential {secret : LeaseSecret} {increment : Span} {issued : Instant} :
    Operational (renewCredential settings secret increment issued) := by
  refine operational_loaded (operational_refuse rfl) fun r => ?_
  refine operational_loaded (operational_refuse rfl) fun c => operational_unless rfl ?_
  refine operational_loaded (operational_refuse rfl) fun d => operational_unless rfl ?_
  refine works_bind (operational_lift _) fun now => ?_
  dsimp only
  split
  · refine works_bind ?_ fun _ => works_bind (operational_lift _) fun _ => works_pure _
    exact Connections.works_onManagement (fun key _ => Connections.operational_get key) fun _ => toil_anyhow.execute _ _
  · exact works_pure _

theorem operational_revokeCredential {secret : LeaseSecret} : Operational (revokeCredential secret) := by
  have planning : Operational (revocationPlan secret.role) := operational_loaded (works_pure _) fun _ => works_pure _
  refine works_bind planning fun plan => ?_
  refine operational_loaded (operational_refuse rfl) fun c => operational_loaded (operational_refuse rfl) fun d => ?_
  have counting (warnings : List Warning) : Operational (countRevoked plan.warnings warnings) :=
    works_bind (operational_lift _) fun _ => works_pure _
  dsimp only
  split
  · refine works_bind ?_ counting
    refine works_bind (Connections.works_openUncached labour_anyhow) fun conn => operational_used ?_
    exact works_bind (works_ofSql (toil_anyhow.start conn)) fun t => works_revokeWithin toil_anyhow
  · refine works_bind Connections.operational_startManagement fun t => ?_
    exact works_bind (works_revokeWithin toil_anyhow) counting

end Credentials

/-! ## Commands -/

theorem operational_unkept {p : Op α} (h : Operational p) : Operational p.unkept := works_bind h fun _ => works_pure none

theorem Inquiry.operational_op (about : Inquiry) : Operational about.op := by
  cases about with
  | metrics => exact operational_unkept (operational_lift _)
  | clusters => exact operational_unkept Fleet.operational_listClusters
  | cluster name => exact operational_unkept Fleet.operational_readCluster
  | databases cluster => exact operational_unkept Fleet.operational_listDatabases
  | database cluster name => exact operational_unkept Fleet.operational_readDatabase
  | deletedClusters => exact operational_unkept Reclaim.operational_listClusters
  | deletedCluster name => exact operational_unkept Reclaim.operational_readCluster
  | deletedDatabases cluster => exact operational_unkept Reclaim.operational_listDatabases
  | deletedDatabase cluster name => exact operational_unkept Reclaim.operational_readDatabase
  | roles => exact operational_unkept RoleTemplates.operational_listRoles
  | role name => exact operational_unkept RoleTemplates.operational_readRole
  | tagged target query => exact operational_unkept TagIndex.operational_lookup
  | tags => exact operational_unkept TagIndex.operational_listing

/-- No command is refused because a path leads nowhere. -/
theorem Command.operational_op (command : Command) : Operational command.op := by
  cases command with
  | registerCluster name request => exact operational_unkept Fleet.operational_registerCluster
  | deleteCluster name => exact operational_unkept Fleet.operational_deleteCluster
  | purgeCluster name => exact operational_unkept Reclaim.operational_purgeCluster
  | cloneCluster source request => exact operational_unkept Replicas.operational_cloneCluster
  | registerDatabase cluster name request => exact operational_unkept Fleet.operational_registerDatabase
  | deleteDatabase cluster name => exact operational_unkept Fleet.operational_deleteDatabase
  | purgeDatabase cluster name => exact operational_unkept Reclaim.operational_purgeDatabase
  | writeRole limits name request => exact operational_unkept RoleTemplates.operational_writeRole
  | deleteRole name => exact operational_unkept (operational_ofStore _)
  | writeTags cluster database tags => exact operational_unkept TagIndex.operational_write
  | eraseTags id => exact operational_unkept TagIndex.operational_erase
  | issueCredential settings cluster database role displayName =>
    exact works_bind Credentials.operational_issueCredential fun _ => works_pure _
  | renewCredential settings secret increment issued => exact operational_unkept Credentials.operational_renewCredential
  | revokeCredential secret => exact operational_unkept Credentials.operational_revokeCredential
  | inquire about => exact about.operational_op
  | shutDown => exact operational_unkept (operational_lift _)

end LeaseBroker
