import LeaseBroker.Proofs.Sessions

/-!
What a store can hold. Every value is the text of a record of the kind that its
key names, and the record bears the names in its key and stays within its
limits. Whoever writes a record has checked what a caller gave, or has read a
record and changes a little of it. So a program that reads only such values
writes only such values (`filing`), alone or among others.
-/
namespace LeaseBroker

open Op
open Program (Demands Monotone)

variable {α β : Type}

/-! ## Records within their limits -/

/-- What every registered cluster has. -/
structure ClusterRecord.Fit (c : ClusterRecord) : Prop where
  host : c.host ≠ ""
  port : 1 ≤ c.port.toNat ∧ c.port.toNat ≤ 65535
  username : c.username ≠ ""
  managementRole : c.managementRole ≠ ""
  database : c.database ≠ ""

/-- A record that names its cluster and its database, and an owner that a server keeps whole. -/
structure DatabaseRecord.Fit (cluster name : String) (d : DatabaseRecord) : Prop where
  cluster : d.cluster = cluster
  database : d.database = name
  owned : d.objectsOwner ≠ ""
  kept : Octets.size d.objectsOwner.toList ≤ 63

/-- The term of a lease is not above the maximum, if there is one. -/
def RoleRecord.Fit (r : RoleRecord) : Prop := r.maxTtl = 0 ∨ r.defaultTtl ≤ r.maxTtl

structure TagRecord.Fit (r : TagRecord) : Prop where
  cluster : Names.isName r.cluster
  database : ∀ d, r.database = some d → Names.isName d
  tags : checkTags r.tags = .ok ()

/-- The texts that may lie under a key. -/
inductive Filed : String → String → Prop
  | cluster {name : String} {c : ClusterRecord} (valid : Names.isName name) (fit : c.Fit) :
    Filed (StoreKeys.cluster name) c.encode
  | database {cluster name : String} {d : DatabaseRecord} (valid : Names.isName cluster) (valid' : Names.isName name)
    (fit : d.Fit cluster name) : Filed (StoreKeys.database cluster name) d.encode
  | role {name : String} {r : RoleRecord} (valid : Names.isName name) (fit : r.Fit) :
    Filed (StoreKeys.role name) r.encode
  | tags {r : TagRecord} (fit : r.Fit) : Filed (StoreKeys.tagSet r.id) r.encode

namespace Filed

/-- What is read as a cluster under the key of one lies there as such. -/
theorem cluster_fit {name text : String} {c : ClusterRecord} (filed : Filed (StoreKeys.cluster name) text)
    (decoded : ClusterRecord.decode text = .ok c) : Names.isName name ∧ c.Fit := by
  generalize same : StoreKeys.cluster name = key at filed
  cases filed with
  | cluster valid fit =>
    cases (ClusterRecord.decode_encode _).symm.trans decoded
    exact ⟨StoreKeys.cluster_injective same ▸ valid, fit⟩
  | @database _ _ d =>
    obtain ⟨report, failed⟩ := d.cluster_decode_encode
    cases failed.symm.trans decoded
  | role => exact absurd same.symm (StoreKeys.role_ne_cluster _ _)
  | tags => exact absurd same.symm (StoreKeys.tagSet_ne_cluster _ _)

theorem database_fit {cluster name text : String} {d : DatabaseRecord}
    (filed : Filed (StoreKeys.database cluster name) text) (decoded : DatabaseRecord.decode text = .ok d) :
    Names.isName cluster ∧ Names.isName name ∧ d.Fit cluster name := by
  generalize same : StoreKeys.database cluster name = key at filed
  cases filed with
  | cluster valid => exact absurd same.symm (StoreKeys.cluster_ne_database (Names.slash_not_mem valid) _ _)
  | database valid valid' fit =>
    obtain ⟨rfl, rfl⟩ := StoreKeys.database_injective (Names.slash_not_mem valid) (Names.slash_not_mem valid') same
    cases (DatabaseRecord.decode_encode _).symm.trans decoded
    exact ⟨valid, valid', fit⟩
  | role => exact absurd same.symm (StoreKeys.role_ne_database _ _ _)
  | tags => exact absurd same.symm (StoreKeys.tagSet_ne_database _ _ _)

/-- Nothing but the record of a database lies under the key of one. -/
theorem database_text {cluster name text : String} (filed : Filed (StoreKeys.database cluster name) text) :
    ∃ d : DatabaseRecord, text = d.encode := by
  generalize same : StoreKeys.database cluster name = key at filed
  cases filed with
  | cluster valid => exact absurd same.symm (StoreKeys.cluster_ne_database (Names.slash_not_mem valid) _ _)
  | database => exact ⟨_, rfl⟩
  | role => exact absurd same.symm (StoreKeys.role_ne_database _ _ _)
  | tags => exact absurd same.symm (StoreKeys.tagSet_ne_database _ _ _)

theorem role_fit {name text : String} {r : RoleRecord} (filed : Filed (StoreKeys.role name) text)
    (decoded : RoleRecord.decode text = .ok r) : r.Fit := by
  generalize same : StoreKeys.role name = key at filed
  cases filed with
  | cluster => exact absurd same (StoreKeys.role_ne_cluster _ _)
  | database => exact absurd same (StoreKeys.role_ne_database _ _ _)
  | role valid fit =>
    cases (RoleRecord.decode_encode _).symm.trans decoded
    exact fit
  | tags => exact absurd same.symm (StoreKeys.tagSet_ne_role _ _)

end Filed

/-! ## What callers give -/

theorem ne_empty_of_isEmpty {s : String} (h : s.isEmpty = false) : s ≠ "" := by
  rintro rfl
  cases h

theorem validPort?_range {n : Int} {port : UInt16} (valid : validPort? n = some port) :
    1 ≤ port.toNat ∧ port.toNat ≤ 65535 := by
  unfold validPort? at valid
  split at valid
  · cases valid
    simp only [UInt16.toNat_ofNat']
    omega
  · cases valid

theorem passed_unless {b : Bool} {why : Refusal} {rest : Unit → Except Refusal α} {a : α}
    (passed : (if b then (throw why : Except Refusal Unit) >>= rest else rest ()) = .ok a) :
    b = false ∧ rest () = .ok a := by
  cases b with
  | false => exact ⟨rfl, passed⟩
  | true => cases passed

/-- A record of a request that is valid lacks only its management role. -/
theorem ClusterRequest.fit_of_validate {request : ClusterRequest} {record : ClusterRecord}
    (valid : request.validate = .ok record) {role : String} (named : role ≠ "") (password password' : String) :
    ({ record with managementRole := role, managementPassword := password, password := password' } : ClusterRecord).Fit := by
  unfold ClusterRequest.validate at valid
  obtain ⟨host, valid⟩ := passed_unless valid
  cases port : validPort? request.port with
  | none =>
    rw [port] at valid
    cases valid
  | some n =>
    rw [port] at valid
    obtain ⟨username, valid⟩ := passed_unless valid
    obtain ⟨database, valid⟩ := passed_unless valid
    cases mode : TlsMode.ofText? request.tlsMode with
    | none =>
      rw [mode] at valid
      cases valid
    | some m =>
      rw [mode] at valid
      cases valid
      exact ⟨ne_empty_of_isEmpty host, validPort?_range port, ne_empty_of_isEmpty username, named,
        ne_empty_of_isEmpty database⟩

/-- What is cut to a limit that any character meets is not empty, unless it was before. -/
theorem Octets.truncate_ne_empty {s : String} {limit : Nat} (given : s ≠ "") (room : 4 ≤ limit) :
    Octets.truncate s limit ≠ "" := by
  intro cut
  have none : fitting limit s.toList = [] := by simpa [truncate] using congrArg String.toList cut
  cases chars : s.toList with
  | nil => exact given (String.toList_injective chars)
  | cons c cs =>
    have short : c.utf8Size ≤ limit := Nat.le_trans c.utf8Size_le_four room
    rw [chars, fitting, if_pos short] at none
    cases none

theorem Octets.size_truncate_le (s : String) (limit : Nat) : size (truncate s limit).toList ≤ limit := by
  rw [truncate, String.toList_ofList]
  exact size_fitting_le limit s.toList

theorem append_ne_empty {s t : String} (given : s ≠ "") : s ++ t ≠ "" := by
  intro none
  exact given (String.append_eq_empty_iff.1 none).1

theorem Names.managementRole_ne_empty (id : Uuid) : managementRole id ≠ "" :=
  Octets.truncate_ne_empty (append_ne_empty (by decide)) (by decide)

/-- An owner that is chosen is a name that a server keeps whole. -/
theorem Fleet.Eligible.fit {database wanted owner : String} (eligible : Eligible database wanted owner) :
    owner ≠ "" ∧ Octets.size owner.toList ≤ 63 := by
  unfold Eligible at eligible
  split at eligible
  · obtain ⟨id, rfl⟩ := eligible
    have given : "v-objown-" ++ database ++ "-" ++ id.text ≠ "" :=
      append_ne_empty (append_ne_empty (append_ne_empty (by decide)))
    exact ⟨Octets.truncate_ne_empty given (by decide), Octets.size_truncate_le ..⟩
  · rename_i given
    subst eligible
    exact ⟨Octets.truncate_ne_empty (ne_empty_of_isEmpty (by simpa using given)) (by decide), Octets.size_truncate_le ..⟩

/-- Seconds that are whole do not exceed those of a longer span. -/
theorem Span.secs_le {a b : Span} (h : a ≤ b) : a.secs ≤ b.secs := by
  have shorter : a.nanos ≤ b.nanos := h
  refine UInt64.le_iff_toNat_le.2 ?_
  rw [toNat_secs, toNat_secs]
  exact Nat.div_le_div_right shorter

/-- Limits that are accepted for a role are in order after they were cut to seconds. -/
theorem RoleRecord.fit_of_bounded {defaultTtl maxTtl : Span} (bounded : (!maxTtl.isZero && maxTtl < defaultTtl) = false)
    (creation revocation : List String) :
    Fit { defaultTtl := defaultTtl.secs, maxTtl := maxTtl.secs, creation, revocation } := by
  by_cases unset : maxTtl.isZero
  · obtain rfl : maxTtl = .zero := Span.isZero_iff.1 unset
    exact .inl rfl
  · have ordered : ¬maxTtl < defaultTtl := by simpa [unset] using bounded
    exact .inr (Span.secs_le (Nat.le_of_not_lt ordered))

/-! ## Programs that keep to it -/

/-- Whether the call puts a value into the store. -/
def Call.puts : Call → Bool
  | put .. => true
  | _ => false

/-- For a program that reads what may lie under its keys: it may write no more than that. -/
def filing : Demands Unit
  | .fetch key, K, _ => ∀ r, (∀ text, r = .ok (some text) → Filed key text) → K r ()
  | .put key text, K, _ => Filed key text ∧ ∀ r, K r ()
  | _, K, _ => ∀ r, K r ()

instance : Monotone filing where
  mono {c K K' s} weaker h := by
    cases c with
    | fetch key => exact fun r filed => weaker r () (h r filed)
    | put key text => exact ⟨h.1, fun r => weaker r () (h.2 r)⟩
    | _ => exact fun r => weaker r () (h r)

theorem filing_of_not_puts {c : Call} {K : c.Answer → Unit → Prop} (notPut : !c.puts) (next : ∀ r, K r ()) :
    filing c K () := by
  cases c with
  | fetch key => exact fun r _ => next r
  | put key text => cases notPut
  | _ => exact next

theorem Call.not_puts_of_not_writes (c : Call) (h : !c.writes) : !c.puts := by cases c <;> first | rfl | cases h

/-- `p` writes what may lie under its keys, where it reads what may lie there. -/
abbrev Op.Files (p : Op α) : Prop := Op.Keeps filing (fun _ => True) p

theorem files_of_only {p : Op α} (h : Op.Only (!·.puts) p) : Op.Files p := by
  intro s _
  have kept : Op.wp filing (fun _ _ => True) (fun _ _ => True) p s :=
    Op.wp_of_only (D := filing) (I := fun _ => True)
      (fun c K s notPut _ next => filing_of_not_puts notPut fun r => next r () trivial) h trivial
  exact wp_mono kept (fun _ _ h => h) fun _ _ h => ⟨h, trivial⟩

theorem files_of_unwritten {p : Op α} (h : Op.Only (!·.writes) p) : Op.Files p :=
  files_of_only (Op.only_mono Call.not_puts_of_not_writes h)

theorem files_of_quiet {p : Op α} (h : Op.Only (·.quiet) p) : Op.Files p :=
  files_of_unwritten (Op.only_mono Call.not_writes_of_quiet h)

theorem files_of_works {p : Op α} (h : Op.Only (·.works) p) : Op.Files p :=
  files_of_unwritten (Op.only_mono Call.not_writes_of_works h)

theorem routine_filing : Routine filing (fun _ => True) where
  labour := {
    call := fun {c _ _} works _ next =>
      filing_of_not_puts (c.not_puts_of_not_writes (c.not_writes_of_works works)) fun r =>
        next r () trivial fun _ _ => trivial
    context := fun _ => trivial }
  quiet {c _ _} quiet _ next :=
    filing_of_not_puts (c.not_puts_of_not_writes (c.not_writes_of_quiet quiet)) fun r => next r () trivial
  get _ := files_of_unwritten (Connections.only_getWithin _)

theorem files_put {key text : String} (filed : Filed key text) : Op.Files (ofStore (Program.put key text)) :=
  keeps_ofStore fun _ _ => ⟨filed, fun _ => trivial⟩

/-- What follows `p` may rely on what is known of its result. -/
theorem files_bind {P : α → Prop} {p : Op α} {f : α → Op β}
    (known : Op.wp filing (fun a _ => P a) (fun _ _ => True) p ()) (rest : ∀ a, P a → Op.Files (f a)) :
    Op.Files (p >>= f) := fun _ _ =>
  wp_seq known (fun a t holds => rest a holds t trivial) fun _ _ _ => ⟨trivial, trivial⟩

theorem wp_filing_of_yields {P : α → Prop} {p : Op α} (files : Op.Files p) (yields : Op.Yields P p) :
    Op.wp filing (fun a _ => P a) (fun _ _ => True) p () := by
  refine Program.wp_mono (fun r t ended => ?_) (Program.wp_yields (files () trivial) yields)
  cases r with
  | ok a => exact ended.2 a rfl
  | error e => trivial

theorem files_check {r : Except Refusal α} {f : α → Op β} (rest : ∀ a, r = .ok a → Op.Files (f a)) :
    Op.Files (ofRefusal r >>= f) := by
  cases passed : r with
  | ok a => exact fun s _ => (wp_bind ..).2 (rest a passed s trivial)
  | error why => exact fun s _ => (wp_bind ..).2 ⟨trivial, trivial⟩

/-- What is loaded under a key may lie there. -/
theorem wp_filing_loadRecord {decode : String → Except String α} {key : String} :
    Op.wp filing (fun a? _ => ∀ a, a? = some a → ∃ text, Filed key text ∧ decode text = .ok a) (fun _ _ => True)
      (loadRecord decode key) () := by
  refine (wp_bind_ofStore ..).2 fun r filed => ?_
  cases r with
  | error e => trivial
  | ok text? =>
    cases text? with
    | none => exact nofun
    | some text =>
      dsimp only [Program.wp, Except.mapError, Op.Ended]
      split
      · rename_i record decoded
        rintro _ ⟨⟩
        exact ⟨text, filed text rfl, decoded⟩
      · trivial

theorem wp_filing_load {decode : String → Except String α} {key : String} {f : Option α → Op β} {ok : β → Unit → Prop}
    {fail : BrokerError → Unit → Prop} (failing : ∀ e t, fail e t) (missing : Op.wp filing ok fail (f none) ())
    (found : ∀ a text, Filed key text → decode text = .ok a → Op.wp filing ok fail (f (some a)) ()) :
    Op.wp filing ok fail (loadRecord decode key >>= f) () := by
  refine wp_found wp_filing_loadRecord (fun _ _ => missing) (fun a _ read => ?_) fun e t _ => failing e t
  obtain ⟨text, filed, decoded⟩ := read a rfl
  exact found a text filed decoded

theorem files_load {decode : String → Except String α} {key : String} {f : Option α → Op β}
    (missing : Op.Files (f none)) (found : ∀ a text, Filed key text → decode text = .ok a → Op.Files (f (some a))) :
    Op.Files (loadRecord decode key >>= f) := fun _ _ =>
  wp_filing_load (fun _ _ => ⟨trivial, trivial⟩) (missing () trivial)
    fun a text filed decoded => found a text filed decoded () trivial

/-! ## Operations -/

theorem files_saveCluster {name : String} {c : ClusterRecord} (valid : Names.isName name) (fit : c.Fit) :
    Op.Files (saveCluster name c) := files_put (.cluster valid fit)

theorem files_saveDatabase {cluster name : String} {d : DatabaseRecord} (valid : Names.isName cluster)
    (valid' : Names.isName name) (fit : d.Fit cluster name) : Op.Files (saveDatabase cluster name d) :=
  files_put (.database valid valid' fit)

namespace Fleet

theorem files_registerCluster {name : String} {request : ClusterRequest} : Op.Files (registerCluster name request) := by
  refine files_check fun _ checked => works_bind (files_of_quiet only_loadRecord) fun record? => ?_
  have valid := isName_of_check checked
  split
  all_goals
    try refine keeps_unless ?_
    refine files_check fun record validated => ?_
    refine works_bind (files_of_works Connections.only_openUncached) fun c => ?_
    have working : Op.Files ((provisionCluster c record.username).andAlways (Connections.closeQuietly c)) :=
      files_of_works (only_andAlways only_provisionCluster Connections.only_closeQuietly)
    refine files_bind (wp_filing_of_yields working (yields_andAlways yields_provisionCluster)) fun logins fresh => ?_
    obtain ⟨id, named⟩ := fresh
    have fit := ClusterRequest.fit_of_validate validated (named ▸ Names.managementRole_ne_empty id)
      logins.managementPassword logins.rootPassword
    refine works_bind (files_saveCluster valid fit) fun _ => ?_
    refine works_bind (files_of_works (only_lift Connections.only_invalidate)) fun closed => ?_
    cases closed <;> exact works_pure _

theorem files_deleteCluster {name : String} : Op.Files (deleteCluster name) := by
  have reading : Op.wp filing (fun c _ => Names.isName name ∧ c.Fit) (fun _ _ => True) (readCluster name) () := by
    refine wp_filing_load (fun _ _ => trivial) trivial fun c text filed decoded => ?_
    cases disabled : c.disabled
    · dsimp only
      rw [disabled]
      exact filed.cluster_fit decoded
    · dsimp only
      rw [disabled]
      trivial
  refine files_bind reading fun c known => works_bind (files_saveCluster known.1 ?_) fun _ => files_of_works only_flushed
  exact { known.2 with }

theorem files_registerDatabase {cluster name : String} {request : DatabaseRequest} :
    Op.Files (registerDatabase cluster name request) := by
  refine files_check fun _ checked => files_check fun _ checked' => ?_
  have valid := isName_of_check checked
  have valid' := isName_of_check checked'
  have storing {owner : String} (eligible : Eligible name request.objectsOwner owner) : Op.Files (enter cluster name owner) := by
    obtain ⟨owned, kept⟩ := eligible.fit
    exact works_bind (files_saveDatabase valid valid' ⟨rfl, rfl, owned, kept⟩) fun _ => works_pure _
  refine works_found (files_of_quiet only_loadRecord) (keeps_refuse _) fun c => keeps_unless ?_
  refine works_found (files_of_quiet only_loadRecord) ?_ fun d => keeps_refused
  have choosing : Op.Files (liftM (chooseOwner name request.objectsOwner)) :=
    routine_filing.habit.keeps_lift (only_chooseOwner rfl)
  refine files_bind (wp_filing_of_yields choosing (yields_lift yields_chooseOwner)) fun owner eligible => ?_
  dsimp only
  split
  · have provisioning : Op.Files (provisionDatabase c cluster name owner request.createDatabase) :=
      works_provisionDatabase routine_filing.labour.toil fun key _ => routine_filing.get key
    exact works_bind provisioning fun _ => storing eligible
  · exact storing eligible

theorem files_deleteDatabase {cluster name : String} : Op.Files (deleteDatabase cluster name) := by
  refine works_found (files_of_quiet only_loadRecord) (keeps_refuse _) fun c => keeps_unless ?_
  refine files_load (keeps_refuse _) fun d text filed decoded => keeps_unless ?_
  obtain ⟨valid, valid', fit⟩ := filed.database_fit decoded
  exact works_bind (files_saveDatabase valid valid' { fit with }) fun _ => files_of_works only_flushed

end Fleet

namespace Reclaim

theorem files_delete {key : String} : Op.Files (ofStore (Program.delete key)) := fun _ _ => (wp_ofStore _).2 fun r => by
  cases r with
  | ok u => trivial
  | error e => exact ⟨trivial, trivial⟩

theorem files_purgeCluster {name : String} : Op.Files (purgeCluster name) :=
  works_bind (files_of_quiet only_readCluster) fun _ =>
    works_bind files_delete fun _ => files_of_works Fleet.only_flushed

theorem files_purgeDatabase {cluster name : String} : Op.Files (purgeDatabase cluster name) :=
  works_bind (files_of_quiet only_readDatabase) fun _ =>
    works_bind files_delete fun _ => files_of_works Fleet.only_flushed

end Reclaim

namespace Replicas

/-- The record to clone is that of a cluster with a name, on the server of the request. -/
theorem wp_filing_checkClone {source : String} {request : CloneRequest} :
    Op.wp filing (fun record _ => record.Fit ∧ Names.isName request.target) (fun _ _ => True)
      (checkClone source request) () := by
  unfold checkClone
  refine wp_unless trivial fun host => ?_
  cases ranged : validPort? request.port with
  | none => trivial
  | some port =>
    refine wp_filing_load (fun _ _ => trivial) trivial fun record text filed decoded => ?_
    obtain ⟨-, fit⟩ := filed.cluster_fit decoded
    refine wp_unless trivial fun _ => wp_unless trivial fun _ => wp_checked (fun _ _ => trivial) fun _ valid => ?_
    have placed : ClusterRecord.Fit { record with host := request.host, port := port, disabled := false } :=
      { fit with host := ne_empty_of_isEmpty host, port := validPort?_range ranged }
    exact wp_filing_load (fun _ _ => trivial) ⟨placed, isName_of_check valid⟩ fun _ _ _ _ => trivial

/-- A copy goes under the name of its original, to a cluster with a name. -/
theorem files_copyDatabase {source target : String} {inheritDeleted : Bool} {name : String} (valid : Names.isName target) :
    Program.wp filing (fun _ _ => True) (copyDatabase source target inheritDeleted name) () := by
  refine Program.wp_seq wp_filing_loadRecord fun loaded t read => ?_
  split
  · trivial
  · trivial
  · rename_i d
    obtain ⟨text, filed, decoded⟩ := read d rfl
    obtain ⟨-, valid', fit⟩ := filed.database_fit decoded
    split
    · trivial
    · have saving := files_saveDatabase valid valid' (d := { d with cluster := target }) { fit with cluster := rfl }
      refine Program.wp_seq (saving () trivial) fun stored t _ => ?_
      cases stored <;> trivial

theorem files_copyDatabases {source target : String} {inheritDeleted : Bool} (valid : Names.isName target) :
    Program.wp filing (fun _ _ => True) (copyDatabases source target inheritDeleted) () := by
  have copying (names : List String) :
      Program.wp filing (fun _ _ => True) (copyEach source target inheritDeleted names) () := by
    induction names with
    | nil => trivial
    | cons name names ih =>
      refine Program.wp_seq (files_copyDatabase valid) fun _ _ _ => ?_
      exact Program.wp_seq ih fun _ _ _ => trivial
  refine (Program.wp_bind ..).2 fun listed => ?_
  cases listed with
  | error e => trivial
  | ok entries => exact copying _

theorem files_cloneCluster {source : String} {request : CloneRequest} : Op.Files (cloneCluster source request) := by
  refine files_bind wp_filing_checkClone fun record known => ?_
  obtain ⟨fit, valid⟩ := known
  refine works_bind (works_tryManagement routine_filing.labour) fun warnings => ?_
  refine works_bind (works_inContext routine_filing.labour.toil (files_of_works Connections.only_openUncached)) fun root => ?_
  refine works_bind ?_ fun passwords => ?_
  · exact works_andAlways routine_filing.labour (works_rotateBoth routine_filing.labour.toil) Connections.only_closeQuietly
  refine works_bind (works_inContext routine_filing.labour.toil (files_saveCluster valid { fit with })) fun _ => ?_
  exact works_bind (fun _ _ => (wp_lift _).2 (files_copyDatabases valid)) fun _ => works_pure _

end Replicas

theorem RoleTemplates.files_writeRole {limits : LeaseLimits} {name : String} {request : RoleRequest} :
    Op.Files (writeRole limits name request) := by
  refine files_check fun _ checked => ?_
  dsimp only
  cases bounded : !(request.maxTtl.getD limits.maxTtl).isZero &&
      request.maxTtl.getD limits.maxTtl < request.defaultTtl.getD limits.defaultTtl
  · have fit := RoleRecord.fit_of_bounded bounded request.creation request.revocation
    exact works_bind (files_put (.role (isName_of_check checked) fit)) fun _ => works_pure _
  · exact keeps_refused

namespace TagIndex

theorem files_write {cluster : String} {database : Option String} {tags : Table String} :
    Op.Files (write cluster database tags) := by
  refine files_load (keeps_refuse _) fun c text filed decoded => ?_
  obtain ⟨valid, -⟩ := filed.cluster_fit decoded
  have storing (valid' : ∀ d, database = some d → Names.isName d) : Op.Files (enter cluster database tags) :=
    files_check fun _ checked => works_bind (files_put (.tags ⟨valid, valid', checked⟩)) fun _ => works_pure _
  cases database with
  | none => exact storing nofun
  | some d =>
    refine files_load keeps_refused fun record text filed decoded => storing ?_
    rintro _ ⟨⟩
    exact (filed.database_fit decoded).2.1

theorem files_erase {id : String} : Op.Files (erase id) := by
  unfold erase
  exact keeps_unless Reclaim.files_delete

end TagIndex

/-! ## Commands and requests -/

theorem Command.files_op (command : Command) : Op.Files command.op := by
  cases command with
  | registerCluster name request => exact keeps_unkept Fleet.files_registerCluster
  | deleteCluster name => exact keeps_unkept Fleet.files_deleteCluster
  | purgeCluster name => exact keeps_unkept Reclaim.files_purgeCluster
  | cloneCluster source request => exact keeps_unkept Replicas.files_cloneCluster
  | registerDatabase cluster name request => exact keeps_unkept Fleet.files_registerDatabase
  | deleteDatabase cluster name => exact keeps_unkept Fleet.files_deleteDatabase
  | purgeDatabase cluster name => exact keeps_unkept Reclaim.files_purgeDatabase
  | writeRole limits name request => exact keeps_unkept RoleTemplates.files_writeRole
  | deleteRole name => exact keeps_unkept Reclaim.files_delete
  | writeTags cluster database tags => exact keeps_unkept TagIndex.files_write
  | eraseTags id => exact keeps_unkept TagIndex.files_erase
  | _ => exact keeps_op routine_filing.habit _ trivial

namespace Router

theorem files_reply {p : Op α} {f : α → Response} (h : Op.Files p) : Op.Files (p >>= fun a => pure (f a)) :=
  works_bind h fun _ => works_pure _

theorem files_writeTags {data : Fields.Data} : Op.Files (writeTags data) := by
  refine works_bind (keeps_ofRefusal _) fun cluster? => ?_
  split
  · exact works_bind (keeps_ofRefusal _) fun _ => works_bind (keeps_ofRefusal _) fun _ => files_reply TagIndex.files_write
  · exact keeps_refuse _

theorem files_dispatch {settings : Settings} {r : Request} : Op.Files (dispatch settings r) := by
  have reading {α : Type} {p : Op α} {f : α → Response} (h : Op.Only (·.quiet) p) :
      Op.Files (p >>= fun a => pure (f a)) := files_reply (files_of_quiet h)
  unfold dispatch
  dsimp only
  split
  · exact keeps_refused
  split
  case h_1 => exact reading (only_lift (Program.only_call rfl))
  case h_2 => exact files_writeTags
  case h_3 => exact works_bind (keeps_ofRefusal _) fun query => reading TagIndex.only_lookup
  case h_4 => exact reading TagIndex.only_listing
  case h_5 => exact files_reply TagIndex.files_erase
  case h_6 => exact reading only_children
  case h_7 => exact reading Fleet.only_readCluster
  case h_8 => exact works_bind (keeps_ofRefusal _) fun _ => files_reply Fleet.files_registerCluster
  case h_9 => exact files_reply Fleet.files_deleteCluster
  case h_10 => exact reading only_children
  case h_11 => exact works_bind (keeps_ofRefusal _) fun _ => files_reply Replicas.files_cloneCluster
  case h_12 => exact works_bind (keeps_ofRefusal _) fun _ => files_reply Fleet.files_registerDatabase
  case h_13 => exact reading Fleet.only_readDatabase
  case h_14 => exact files_reply Fleet.files_deleteDatabase
  case h_15 => exact reading only_children
  case h_16 => exact reading RoleTemplates.only_readRole
  case h_17 => exact works_bind (keeps_ofRefusal _) fun _ => files_reply RoleTemplates.files_writeRole
  case h_18 => exact files_reply Reclaim.files_delete
  case h_19 => exact files_reply routine_filing.habit.keeps_issueCredential
  case h_20 => exact reading Reclaim.only_listClusters
  case h_21 => exact reading Reclaim.only_listClusters
  case h_22 => exact reading Reclaim.only_readCluster
  case h_23 => exact reading Reclaim.only_listDatabases
  case h_24 => exact files_reply Reclaim.files_purgeCluster
  case h_25 => exact reading Reclaim.only_readDatabase
  case h_26 => exact files_reply Reclaim.files_purgeDatabase
  case h_27 => exact keeps_refuse _

theorem files_answering {p : Op Response} (h : Op.Files p) :
    Program.wp filing (fun _ _ => True) (answering p).run () := by
  refine Program.wp_seq (h () trivial) fun result t _ => ?_
  cases result with
  | ok r => trivial
  | error e => cases e <;> trivial

end Router

theorem HostCall.files_program (call : HostCall) : Program.wp filing (fun _ _ => True) call.program () := by
  cases call with
  | handle settings request => exact Router.files_answering Router.files_dispatch
  | renew settings internal increment issued =>
    refine Router.files_answering (works_bind (keeps_ofRefusal _) fun secret => ?_)
    exact Router.files_reply routine_filing.habit.keeps_renewCredential
  | revoke internal =>
    refine Router.files_answering (works_bind (keeps_ofRefusal _) fun secret => ?_)
    exact Router.files_reply routine_filing.habit.keeps_revokeCredential

/-! ## Stores -/

/-- Every value may lie under its key. -/
def WellFiled (values : Table String) : Prop := ∀ key text, values.get? key = some text → Filed key text

/-- Who can read all that may lie under a key can read what lies there. -/
theorem WellFiled.readable {values : Table String} (filed : WellFiled values) {decode : String → Except String α}
    {key : String} (reads : ∀ text, values.get? key = some text → Filed key text → ∃ a, decode text = .ok a) :
    ∃ a?, Loads decode values key a? := by
  cases found : values.get? key with
  | none => exact ⟨none, found⟩
  | some text =>
    obtain ⟨a, decoded⟩ := reads text found (filed key text found)
    exact ⟨some a, text, found, decoded⟩

section
variable {s t : Surroundings} {i : Nat} {c : Call} {r : c.Answer} {K : c.Answer → Unit → Prop}

theorem filing_step (filed : WellFiled s.values) (h : filing c K ()) (allowed : s.Allows c r) :
    WellFiled (s.after i c r).values ∧ K r () := by
  cases c with
  | fetch key =>
    refine ⟨filed, h r fun text read => filed key text ?_⟩
    subst read
    exact (Surroundings.eq_of_gives allowed).symm
  | put key text =>
    refine ⟨?_, h.2 r⟩
    cases r with
    | error e => exact filed
    | ok u =>
      intro other text' stored
      replace stored : (s.values.insert key text).get? other = some text' := stored
      rw [Table.get?_insert] at stored
      split at stored
      · rename_i own
        cases stored
        exact own ▸ h.1
      · exact filed other text' stored
  | delete key =>
    refine ⟨?_, h r⟩
    cases r with
    | error e => exact filed
    | ok u =>
      intro other text stored
      replace stored : (s.values.erase key).get? other = some text := stored
      rw [Table.get?_erase] at stored
      split at stored
      · cases stored
      · exact filed other text stored
  | _ => exact ⟨filed, h r⟩

end

theorem wellFiled_of_runs {p : Program α} {i : Nat} {s t : Surroundings} {a : α}
    (files : Program.wp filing (fun _ _ => True) p ()) (run : Surroundings.Runs i p s a t)
    (filed : WellFiled s.values) : WellFiled t.values := by
  induction run with
  | done => exact filed
  | call reply _ ih =>
    obtain ⟨allowed, rfl⟩ := reply
    obtain ⟨filed, rest⟩ := filing_step filed files allowed
    exact ih rest filed

/-- Among others a program that keeps to the records does so at every moment. -/
theorem Pool.wellFiled_of_reaches {p q : Pool α} (files : ∀ i, Program.wp filing (fun _ _ => True) (p.tasks i) ())
    (filed : WellFiled p.shared.values) (run : Pool.Reaches p q) : WellFiled q.shared.values := by
  suffices both : WellFiled q.shared.values ∧ ∀ i, Program.wp filing (fun _ _ => True) (q.tasks i) () from both.1
  induction run with
  | refl => exact ⟨filed, files⟩
  | @tail u v _ step ih =>
    obtain ⟨filed, files⟩ := ih
    obtain @⟨i, c, next, r, turn, allowed⟩ := step
    have own := files i
    rw [turn] at own
    obtain ⟨filed, rest⟩ := filing_step (i := i) filed own allowed
    refine ⟨filed, fun j => ?_⟩
    by_cases same : j = i
    · subst same
      rw [Pool.tasks_after_self]
      exact rest
    · rw [Pool.tasks_after_of_ne u same]
      exact files j

theorem wellFiled_blank : WellFiled Surroundings.blank.values := by
  rintro _ _ ⟨⟩

theorem Session.wellFiled {log : List Entry} {s : Surroundings} (session : Session log s) : WellFiled s.values := by
  induction session with
  | start => exact wellFiled_blank
  | @next log s t command reply i _ run ih =>
    refine wellFiled_of_runs ?_ run ih
    exact Program.wp_mono (fun _ _ _ => trivial) (command.files_op () trivial)

/-- What lies under the key of a cluster, of a database, of a role or of a set of tags, with names in the key that are
    names, and reads as the record of that kind, with the names of its key and within its limits. -/
def Sound (key text : String) : Prop :=
  (∃ name c, key = StoreKeys.cluster name ∧ Names.isName name ∧ ClusterRecord.decode text = .ok c ∧ c.Fit) ∨
  (∃ cluster name d, key = StoreKeys.database cluster name ∧ Names.isName cluster ∧ Names.isName name ∧
    DatabaseRecord.decode text = .ok d ∧ d.Fit cluster name) ∨
  (∃ name r, key = StoreKeys.role name ∧ Names.isName name ∧ RoleRecord.decode text = .ok r ∧ r.Fit) ∨
  ∃ r, key = StoreKeys.tagSet r.id ∧ TagRecord.decode text = .ok r ∧ r.Fit

namespace HostCall

/-- What a host may have brought about from an empty store, by calls one after the other or at the same time, some of
    them broken off. -/
inductive Reached : Surroundings → Prop
  | start : Reached .blank
  | calls {s : Surroundings} {calls : Nat → HostCall} {q : Pool (Except BrokerError Response)} (before : Reached s)
    (run : Pool.Reaches ⟨s, fun i => (calls i).program⟩ q) : Reached q.shared

/-- A call that runs on its own is one way to go on. -/
theorem Reached.call {call : HostCall} {i : Nat} {s t : Surroundings} {result : Except BrokerError Response}
    (before : Reached s) (run : Surroundings.Runs i call.program s result t) : Reached t := by
  obtain ⟨q, reaches, rfl, -⟩ := Pool.reaches_of_runs (p := ⟨s, fun _ => call.program⟩) run
  exact .calls before reaches

theorem Reached.wellFiled {s : Surroundings} (reached : Reached s) : WellFiled s.values := by
  induction reached with
  | start => exact wellFiled_blank
  | @calls s calls q _ run ih => exact Pool.wellFiled_of_reaches (fun i => (calls i).files_program) ih run

/-- Whatever a host asks for and whatever fails on the way, all that is stored is sound. -/
theorem stored_records {s : Surroundings} (reached : Reached s) {key text : String}
    (stored : s.values.get? key = some text) : Sound key text := by
  cases reached.wellFiled key text stored with
  | cluster valid fit => exact .inl ⟨_, _, rfl, valid, ClusterRecord.decode_encode _, fit⟩
  | database valid valid' fit => exact .inr (.inl ⟨_, _, _, rfl, valid, valid', DatabaseRecord.decode_encode _, fit⟩)
  | role valid fit => exact .inr (.inr (.inl ⟨_, _, rfl, valid, RoleRecord.decode_encode _, fit⟩))
  | tags fit => exact .inr (.inr (.inr ⟨_, rfl, TagRecord.decode_encode _, fit⟩))

/-- A role that a host has written is stored. -/
theorem stored_role_reads : ∃ s key text, Reached s ∧ s.values.get? key = some text ∧ Sound key text := by
  have parts : Router.segments "roles/reader" = ["roles", "reader"] := by decide +kernel
  let call : HostCall := .handle {} { operation := .update, path := "roles/reader" }
  let role : RoleRecord := ⟨3600, 86400, [], []⟩
  have written : Op.wp (Surroundings.lucky 0)
      (fun _ t => t.values.get? (StoreKeys.role "reader") = some role.encode)
      (fun _ _ => False) (Router.dispatch {} { operation := .update, path := "roles/reader" }) .blank := by
    unfold Router.dispatch
    rw [parts]
    refine wp_passed (a := {}) rfl ((Op.wp_bind ..).2 (wp_passed (Command.check_of_isName (by decide +kernel)) ?_))
    refine (Op.wp_bind ..).2 ((Op.wp_ofStore _).2 (Surroundings.lucky_iff.2 ⟨.ok (), trivial, ?_⟩))
    exact Table.get?_insert_self ..
  have ends : Program.wp (Surroundings.lucky 0) (fun _ t => t.values.get? (StoreKeys.role "reader") = some role.encode)
      call.program .blank := by
    refine (Program.wp_bind ..).2 (Program.wp_mono (fun result t ended => ?_) written)
    cases result with
    | ok r => exact ended
    | error e => exact ended.elim
  obtain ⟨result, t, run, stored⟩ := Program.wp_angelic_iff.1 ends
  exact ⟨t, _, _, Reached.start.call run, stored, stored_records (Reached.start.call run) stored⟩

end HostCall

end LeaseBroker
