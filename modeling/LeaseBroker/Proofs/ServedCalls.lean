import LeaseBroker.Proofs.ServedOperations

/-!
Calls of a host where nothing goes wrong around them. Parts of a path are looked
at before anything is done with them, but the cluster that tags are for, and the
cluster of a lease, are taken as they come (`Router.addresses_asked`). Such a
text can lead to the record of a database (`Astray`), which cannot be read as
that of a cluster. That, and nothing else that a host can ask for, makes a call
fail where it is served.
-/
namespace LeaseBroker

open Op
open Surroundings (served)

variable {α : Type} {i : Nat} {values : Table String} {s : Surroundings}

/-! ## Clusters that are none -/

/-- The text leads to the record of a database, as the name of a cluster does to its own. -/
def Astray (values : Table String) (cluster : String) : Prop :=
  ∃ owner name, cluster = owner ++ "/database/" ++ name ∧ (values.get? (StoreKeys.database owner name)).isSome

/-- What lies under the key of a cluster can be read, unless it belongs to a database. -/
theorem WellFiled.readable_of_not_astray (filed : WellFiled values) {cluster : String}
    (straight : ¬Astray values cluster) :
    ∃ c?, Loads ClusterRecord.decode values (StoreKeys.cluster cluster) c? := by
  refine filed.readable fun text found filing => ?_
  generalize same : StoreKeys.cluster cluster = key at filing
  cases filing with
  | cluster => exact ⟨_, ClusterRecord.decode_encode _⟩
  | @database owner name d =>
    have own := StoreKeys.cluster_injective (same.trans (StoreKeys.database_eq_cluster owner name))
    rw [same] at found
    exact absurd ⟨owner, name, own, found ▸ rfl⟩ straight
  | role => exact absurd same.symm (StoreKeys.role_ne_cluster _ _)
  | tags => exact absurd same.symm (StoreKeys.tagSet_ne_cluster _ _)

/-- What takes the record of a database for that of a cluster gets no further. -/
theorem wp_served_astray {cluster : String} {f : Option ClusterRecord → Op α} (filed : WellFiled s.values)
    (astray : Astray s.values cluster) :
    Op.wp (served i) (fun _ _ => False) (fun e _ => ∃ report, e = .serialization report) (loadCluster cluster >>= f) s := by
  obtain ⟨owner, name, rfl, stored⟩ := astray
  obtain ⟨text, found⟩ := Option.isSome_iff_exists.1 stored
  obtain ⟨d, rfl⟩ := (filed _ _ found).database_text
  obtain ⟨report, failed⟩ := d.cluster_decode_encode
  rw [StoreKeys.database_eq_cluster] at found
  refine wp_seq (wp_served_unread found failed) (fun _ _ => False.elim) fun e _ unread => ?_
  exact ⟨report, unread⟩

/-! ## Commands -/

/-- The cluster that it asks about is a name, if its record is read. -/
def Inquiry.Addressed : Inquiry → Prop
  | cluster name => Names.isName name
  | database c _ => Names.isName c
  | deletedCluster name => Names.isName name
  | _ => True

theorem Inquiry.complies_op {about : Inquiry} (filed : WellFiled values) (addressed : about.Addressed) :
    Op.Complies i values about.op := by
  have unkept {α : Type} {p : Op α} (h : Op.Heeds i values (fun _ => Holding values) p) : Op.Complies i values p.unkept :=
    heeds_after h fun _ => heeds_pure fun _ _ => trivial
  have children {above : String} : Op.Complies i values
      (do return StoreKeys.leaves (← ofStore (Program.list above)) : Op (List String)).unkept :=
    unkept (heeds_mono heeds_children fun _ _ listed => listed.1)
  cases about with
  | metrics => exact fun s inside => wp_unkept.2 ((wp_lift _).2 (Surroundings.served_iff.2 fun _ _ _ => trivial))
  | clusters => exact children
  | cluster name => exact unkept (Fleet.heeds_readCluster (filed.readable_of_named addressed))
  | databases cluster => exact children
  | database cluster name =>
    exact unkept (Fleet.heeds_readDatabase filed (filed.readable_of_named addressed))
  | deletedClusters => exact unkept (Reclaim.heeds_listClusters filed)
  | deletedCluster name =>
    exact unkept (Reclaim.heeds_readCluster (filed.readable_of_named addressed))
  | deletedDatabases cluster => exact unkept (Reclaim.heeds_listDatabases filed)
  | deletedDatabase cluster name => exact unkept (Reclaim.heeds_readDatabase filed)
  | roles => exact children
  | role name => exact unkept (RoleTemplates.heeds_readRole filed)
  | tagged target query => exact unkept (TagIndex.heeds_lookup filed)
  | tags => exact unkept (TagIndex.heeds_listing filed)

namespace Command

/-- The cluster that a request names in its path is a name. -/
def Addressed : Command → Prop
  | deleteCluster name => Names.isName name
  | purgeCluster name => Names.isName name
  | cloneCluster source _ => Names.isName source
  | deleteDatabase cluster _ => Names.isName cluster
  | issueCredential _ cluster _ _ _ => Names.isName cluster
  | inquire about => about.Addressed
  | _ => True

/-- The command comes to the record of a database and takes it for that of a cluster. -/
def Misdirected (values : Table String) : Command → Prop
  | writeTags cluster _ _ => Astray values cluster
  | renewCredential _ secret _ _ =>
    Astray values secret.cluster ∧ ∃ r, Loads RoleRecord.decode values (StoreKeys.role secret.role) (some r)
  | revokeCredential secret => Astray values secret.cluster
  | _ => False

variable {command : Command}

/-- Served commands succeed or are refused, but for those that are misdirected. -/
theorem complies_op (filed : WellFiled values) (addressed : command.Addressed)
    (straight : ¬command.Misdirected values) : Op.Complies i values command.op := by
  have unkept {α : Type} {p : Op α} (h : Op.Complies i values p) : Op.Complies i values p.unkept :=
    heeds_then h fun _ => sure_pure _
  cases command with
  | registerCluster name request => exact unkept (Fleet.complies_registerCluster filed)
  | deleteCluster name => exact unkept (Fleet.complies_deleteCluster filed addressed)
  | purgeCluster name => exact unkept (Reclaim.complies_purgeCluster filed addressed)
  | cloneCluster source request => exact unkept (Replicas.complies_cloneCluster filed addressed)
  | registerDatabase cluster name request => exact unkept (Fleet.complies_registerDatabase filed)
  | deleteDatabase cluster name => exact unkept (Fleet.complies_deleteDatabase filed addressed)
  | purgeDatabase cluster name => exact unkept (Reclaim.complies_purgeDatabase filed)
  | writeRole limits name request => exact unkept RoleTemplates.complies_writeRole
  | deleteRole name => exact unkept heeds_delete
  | writeTags cluster database tags =>
    exact unkept (TagIndex.complies_write filed (filed.readable_of_not_astray straight))
  | eraseTags id => exact unkept TagIndex.complies_erase
  | issueCredential settings cluster database role displayName =>
    exact heeds_then (Credentials.complies_issueCredential filed addressed) fun _ => sure_pure _
  | renewCredential settings secret increment issued =>
    refine unkept (Credentials.complies_renewCredential filed fun r stored => ?_)
    exact filed.readable_of_not_astray fun astray => straight ⟨astray, r, stored⟩
  | revokeCredential secret =>
    exact unkept (Credentials.complies_revokeCredential filed (filed.readable_of_not_astray straight))
  | inquire about => exact about.complies_op filed addressed
  | shutDown =>
    exact heeds_work (works_lift labour_served Connections.only_invalidate) fun _ => heeds_pure fun _ _ => trivial

/-- Commands that are misdirected cannot read what they find. -/
theorem fails_of_misdirected (filed : WellFiled s.values) (misdirected : command.Misdirected s.values) :
    Op.wp (served i) (fun _ _ => False) (fun e _ => ∃ report, e = .serialization report) command.op s := by
  have straying {α : Type} {cluster : String} {f : Option ClusterRecord → Op α} (astray : Astray s.values cluster)
      {t : Surroundings} (same : t.values = s.values) : Op.wp (served i) (fun _ _ => False)
        (fun e _ => ∃ report, e = .serialization report) (loadCluster cluster >>= f) t :=
    wp_served_astray (by rwa [same]) (by rwa [same])
  cases command with
  | writeTags cluster database tags => exact wp_unkept.2 (straying misdirected rfl)
  | renewCredential settings secret increment issued =>
    obtain ⟨astray, r, stored⟩ := misdirected
    exact wp_unkept.2 (wp_served_load_bind stored fun t same => straying astray same.values)
  | revokeCredential secret =>
    obtain ⟨r?, loads⟩ := filed.readable_role secret.role
    refine wp_unkept.2 ((wp_bind ..).2 (wp_served_load_bind loads fun t same => ?_))
    cases r? <;> exact straying misdirected same.values
  | _ => exact misdirected.elim

end Command

/-! ## Calls of a host -/

namespace Router

/-- The first name of a path that is one. -/
def Route.Named : Route → Prop
  | .cluster c => Names.isName c
  | .clone c => Names.isName c
  | .database c _ => Names.isName c
  | .credential c _ _ => Names.isName c
  | .deletedCluster c => Names.isName c
  | _ => True

theorem named_of_valid {parts : List String} {route : Route} (valid : namesValid parts)
    (routed : routeOf parts = some route) : route.Named := by
  unfold routeOf at routed
  split at routed
  all_goals cases routed
  all_goals simp_all [namesValid, Route.Named]

/-- What is asked for, if anything is, is addressed. -/
def Addresses (asked : Except Refusal Command) : Prop := ∀ command, asked = .ok command → command.Addressed

theorem addresses_ok {command : Command} (h : command.Addressed) : Addresses (.ok command) := by
  rintro _ ⟨⟩
  exact h

theorem addresses_check {r : Except Refusal α} {f : α → Except Refusal Command} (h : ∀ a, Addresses (f a)) :
    Addresses (r >>= f) := by
  cases r with
  | ok a => exact h a
  | error why => exact nofun

theorem addresses_askedTags {data : Fields.Data} : Addresses (askedTags data) := by
  refine addresses_check fun cluster? => ?_
  cases cluster? with
  | none => exact nofun
  | some cluster => exact addresses_check fun database => addresses_check fun pairs => addresses_ok trivial

theorem addresses_askedOf {settings : Settings} {r : Request} {route? : Option Route}
    (named : ∀ route, route? = some route → route.Named) : Addresses (askedOf settings r route?) := by
  unfold askedOf
  split
  case h_2 => exact addresses_askedTags
  case h_3 | h_8 | h_12 | h_17 => exact addresses_check fun _ => addresses_ok trivial
  case h_11 => exact addresses_check fun _ => addresses_ok (named _ rfl)
  case h_7 | h_9 | h_13 | h_14 | h_19 | h_22 | h_24 => exact addresses_ok (named _ rfl)
  case h_27 => exact nofun
  all_goals exact addresses_ok trivial

theorem addresses_asked {settings : Settings} {r : Request} : Addresses (asked settings r) := by
  unfold asked
  dsimp only
  split
  · next valid => exact addresses_askedOf fun route routed => named_of_valid valid routed
  · exact nofun

end Router

/-- What a host is told of a command that succeeds or is refused is no error. -/
theorem Tells.answered {reply : Except BrokerError (Option Credential)} {told : Except BrokerError Response}
    (tells : Tells reply told) (fine : ∀ e, reply = .error e → Refused e) : ∃ r, told = .ok r := by
  cases reply with
  | ok a =>
    obtain ⟨r, rfl, -⟩ := tells
    exact ⟨r, rfl⟩
  | error e =>
    obtain ⟨why, rfl⟩ := fine e rfl
    rcases tells with ⟨-, -, rfl⟩ | ⟨fatal, -⟩
    · exact ⟨_, rfl⟩
    · exact absurd rfl (fatal why)

namespace HostCall

variable {call : HostCall}

theorem addresses_asked : Router.Addresses call.asked := by
  cases call with
  | handle settings r => exact Router.addresses_asked
  | renew settings internal increment issued => exact Router.addresses_check fun secret => Router.addresses_ok trivial
  | revoke internal => exact Router.addresses_check fun secret => Router.addresses_ok trivial

/-- The call asks for a command that is misdirected. -/
def Misdirected (values : Table String) (call : HostCall) : Prop :=
  ∃ command, call.asked = .ok command ∧ command.Misdirected values

/-- A call that is served comes to an end, and is answered unless it is misdirected: then it fails, as a record cannot be
    read. -/
theorem served_call_answered (reached : Reached s) (call : HostCall) :
    (∃ result t, Program.Runs (Surroundings.Served i) call.program s result t) ∧
    ∀ result t, Program.Runs (Surroundings.Served i) call.program s result t →
      (call.Misdirected s.values → ∃ report, result = .error (.serialization report)) ∧
      (¬call.Misdirected s.values → ∃ r, result = .ok r) := by
  refine ⟨Surroundings.exists_served_run call.program s, fun result t run => ⟨?_, fun straight => ?_⟩⟩
  · rintro ⟨command, asks, misdirected⟩
    obtain ⟨reply, ran, tells⟩ := runs_asked asks run
    have ended := Program.wp_demonic_iff.1 (Command.fails_of_misdirected (i := i) reached.wellFiled misdirected) _ _ ran
    cases reply with
    | ok a => exact ended.elim
    | error e =>
      obtain ⟨report, rfl⟩ := ended
      rcases tells with ⟨why, same, -⟩ | ⟨-, rfl⟩
      · cases same
      · exact ⟨report, rfl⟩
  · cases asks : call.asked with
    | error why => exact ⟨_, (runs_unasked asks run).1⟩
    | ok command =>
      obtain ⟨reply, ran, tells⟩ := runs_asked asks run
      have direct : ¬command.Misdirected s.values := fun misdirected => straight ⟨command, asks, misdirected⟩
      have complies := Command.complies_op (i := i) reached.wellFiled (addresses_asked _ asks) direct
      have ended := Program.wp_demonic_iff.1 (complies s rfl) _ _ ran
      refine tells.answered fun e same => ?_
      rwa [same] at ended

/-- Tags for a database, asked for as if it were a cluster. -/
def misplacedTags : HostCall :=
  about .update ["metadata"]
    (Table.ofList [("cluster", .string "main/database/app"), ("data", .object [("k", .string "v")])])

theorem misplacedTags_asks :
    misplacedTags.asked = .ok (.writeTags "main/database/app" none (Table.ofList [("k", "v")])) := by
  have fine : ∀ part ∈ ["metadata"], part ≠ "" ∧ '/' ∉ part.toList := by decide
  unfold misplacedTags about HostCall.asked
  refine Eq.trans (Router.asked_of_route {} .tags rfl fine (by decide) rfl) ?_
  rfl

/-- A database is registered, and then tags are asked for as if it were a cluster: that fails though all is served. -/
theorem misplaced_tags_fail : ∃ s t report, Reached s ∧
    Program.Runs (Surroundings.Served 0) misplacedTags.program s (.error (.serialization report)) t := by
  have main : Names.isName "main" := by decide +kernel
  have app : Names.isName "app" := by decide +kernel
  obtain ⟨s, c, d, reached, -, -, ⟨text, found, -⟩, -⟩ := Reached.start.enlisted main app rfl rfl
  obtain ⟨⟨result, t, run⟩, ends⟩ := served_call_answered (i := 0) reached misplacedTags
  have astray : Astray s.values "main/database/app" := ⟨"main", "app", by decide, found ▸ rfl⟩
  obtain ⟨report, rfl⟩ := (ends result t run).1 ⟨_, misplacedTags_asks, astray⟩
  exact ⟨s, t, report, reached, run⟩

end HostCall

end LeaseBroker
