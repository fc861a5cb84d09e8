import LeaseBroker.Proofs.ActiveConnections
import LeaseBroker.Proofs.Listings
import LeaseBroker.Proofs.Revocations

/-!
A cluster from its deletion until it is purged. Whatever runs meanwhile, its
record stays, and those of its databases unless they were deleted before and are
purged; what would want it active fails at once; and over the connections that
were opened from its record nothing is said but what a revocation says over one
of its own, which it closes.
-/
namespace LeaseBroker

open Op
open Surroundings (alone lucky Untouched)

variable {i : Nat} {s t : Surroundings} {command : Command} {reply : Except BrokerError (Option Credential)}
  {log : List Entry} {cluster : String} {conn : Connection}

/-! ## What is barred -/

/-- The commands that want a cluster to be active, or a clone's place to be free. -/
def Command.Wants (cluster : String) : Command → Prop
  | registerCluster name _ | deleteCluster name => name = cluster
  | cloneCluster source request => source = cluster ∨ request.target = cluster
  | registerDatabase c _ _ | deleteDatabase c _ => c = cluster
  | issueCredential _ c _ _ _ => c = cluster
  | renewCredential _ secret _ _ => secret.cluster = cluster
  | inquire (.cluster name) => name = cluster
  | inquire (.database c _) => c = cluster
  | _ => False

/-- With a cluster that was deleted they fail and do nothing. -/
theorem Command.barred {c : ClusterRecord} (stored : Loads ClusterRecord.decode s.values (StoreKeys.cluster cluster) (some c))
    (deleted : c.disabled = true) (wants : command.Wants cluster)
    (run : Surroundings.Runs i command.op.run s reply t) : (∃ e, reply = .error e) ∧ s.Untouched t := by
  have inactive := not_activeCluster stored deleted
  refine of_stops run ?_
  cases command with
  | registerCluster name request =>
    subst wants
    exact stops_unkept (Fleet.stops_registerCluster stored deleted)
  | deleteCluster name =>
    subst wants
    exact stops_unkept (Fleet.stops_deleteCluster inactive)
  | cloneCluster source request =>
    refine stops_unkept (Replicas.stops_cloneCluster fun ⟨active, free⟩ => ?_)
    rcases wants with rfl | rfl
    · exact inactive active
    · obtain ⟨text, found, -⟩ := stored
      cases free.symm.trans found
  | registerDatabase c name request =>
    subst wants
    exact stops_unkept (Fleet.stops_registerDatabase fun fit => inactive fit.1)
  | deleteDatabase c name =>
    subst wants
    exact stops_unkept (Fleet.stops_inactive inactive)
  | issueCredential settings c name role displayName =>
    subst wants
    exact stops_bind (Credentials.stops_issueCredential fun active => inactive active.1)
  | renewCredential settings secret increment issued =>
    subst wants
    exact stops_unkept (Credentials.stops_renewCredential fun active => inactive active.1)
  | inquire about =>
    cases about with
    | cluster name =>
      subst wants
      exact stops_unkept (Fleet.stops_inactive inactive)
    | database c name =>
      subst wants
      exact stops_unkept (Fleet.stops_inactive inactive)
    | _ => exact wants.elim
  | _ => exact wants.elim

/-! ## Connections that were opened from a record -/

namespace Surroundings

/-- Between `s` and `t` the connection was opened by someone who had read the record of the cluster. -/
def Draws (cluster : String) (s t : Surroundings) (conn : Connection) : Prop :=
  ∃ later i target earlier, t.history = later ++ ⟨i, .connect target, .ok conn⟩ :: earlier ++ s.history ∧
    ∃ j text, ⟨j, .fetch (StoreKeys.cluster cluster), .ok (some text)⟩ ∈ earlier

theorem Draws.opened (h : Draws cluster s t conn) : conn ∈ t.opened := by
  obtain ⟨later, j, target, earlier, grown, -⟩ := h
  refine List.mem_filterMap.2 ⟨⟨j, .connect target, .ok conn⟩, ?_, rfl⟩
  rw [grown]
  simp

/-- What a run opens was not open before. -/
theorem fresh_of_runs {α : Type} {p : Program α} {a : α} (run : Runs i p s a t) {events : List Event}
    (grown : t.history = events ++ s.history) {e : Event} (member : e ∈ events) (own : e.opened? = some conn) :
    conn ∉ s.opened := by
  induction run generalizing events with
  | done =>
    obtain rfl := List.append_left_eq_self.1 grown.symm
    cases member
  | @call c next s t u r a reply rest ih =>
    obtain ⟨allowed, rfl⟩ := reply
    obtain ⟨later, rfl, grown'⟩ := events_of_rest rest grown
    rcases List.mem_append.1 member with after | first
    · exact fun before => ih grown' after (opened_of_suffix (List.suffix_cons ..) before)
    · obtain rfl := List.mem_singleton.1 first
      cases c with
      | connect target =>
        cases r with
        | error e => cases own
        | ok d =>
          cases own
          exact fun before => (allowed conn rfl).2 conn before rfl
      | _ => cases own

theorem Draws.fresh {α : Type} {p : Program α} {a : α} (run : Runs i p s a t) (h : Draws cluster s t conn) :
    conn ∉ s.opened := by
  obtain ⟨later, j, target, earlier, grown, -⟩ := h
  exact fresh_of_runs run grown (List.mem_append_right _ List.mem_cons_self) rfl

/-- A program that may not read the record draws no connection from it. -/
theorem not_draws_of_made {scope : Scope} {own : Connection → Prop} (named : Names.isName cluster)
    (made : s.Made (scope.Admits own) t) (unread : ¬scope.reads cluster) : ¬Draws cluster s t conn := by
  rintro ⟨later, j, target, earlier, grown, k, text, member⟩
  obtain ⟨events, grown', admitted⟩ := made
  obtain rfl := List.append_cancel_right (grown'.symm.trans grown)
  refine unread (admitted _ (List.mem_append_right _ (List.mem_cons_of_mem _ member)) cluster named rfl)

/-- Nothing was said to servers over a connection. -/
theorem made_of_heard {α : Type} {p : Program α} {a : α} (run : Runs i p s a t) (same : t.heard = s.heard) :
    s.Made (·.over? = none) t := by
  obtain ⟨events, grown⟩ := history_grows run
  refine ⟨events, grown.symm, fun e member => ?_⟩
  have unheard : events.filter (·.call.toServer) = [] := by
    rw [heard, heard, ← grown, List.filter_append] at same
    exact List.append_left_eq_self.1 same
  have silent := List.filter_eq_nil_iff.1 unheard e member
  obtain ⟨j, call, answer⟩ := e
  cases call <;> first | rfl | exact absurd rfl silent

end Surroundings

/-- The connection was opened from the record of the cluster, by one of the commands that were run. -/
def OpenedFrom (cluster : String) : List Entry → Surroundings → Connection → Prop
  | [], _, _ => False
  | e :: earlier, t, conn => e.before.Draws cluster t conn ∨ OpenedFrom cluster earlier e.before conn

/-- A command that caches connections reads no record but the one they are for. -/
theorem Command.key_of_reads {key : ConnectionKey} (keeps : command.scope.keeps key) (reads : command.scope.reads cluster) :
    key.cluster = cluster := by
  cases command with
  | registerDatabase | issueCredential | renewCredential | revokeCredential => exact keeps.1.trans reads.symm
  | _ => exact keeps.elim

namespace Session

theorem opened_of_openedFrom (session : Session log s) (drawn : OpenedFrom cluster log s conn) : conn ∈ s.opened := by
  induction session with
  | start => exact drawn.elim
  | next _ run ih =>
    rcases drawn with here | before
    · exact here.opened
    · exact Surroundings.opened_of_suffix (Surroundings.history_grows run) (ih before)

/-- What is cached for other clusters was not opened from the record of this one. -/
theorem cached_apart (session : Session log s) (named : Names.isName cluster) {key : ConnectionKey}
    (cached : (key, conn) ∈ s.broker.cache.entries) (other : key.cluster ≠ cluster) : ¬OpenedFrom cluster log s conn := by
  induction session with
  | start => exact id
  | next earlier run ih =>
    have attended := Command.attended run
    rintro (here | before)
    · rcases attended.cached key conn cached with old | ⟨keeps, -⟩
      · exact here.fresh run (earlier.opened_of_cached old)
      · exact Surroundings.not_draws_of_made named attended.calls (fun reads => other (Command.key_of_reads keeps reads)) here
    · rcases attended.cached key conn cached with old | ⟨-, opened⟩
      · exact ih old before
      · exact opened.1 (earlier.opened_of_openedFrom before)

end Session

/-! ## What is said -/

theorem TagIndex.silent_write {database : Option String} {tags : Table String} :
    Op.Only (·.over? = none) (write cluster database tags) := by
  have quiet {α : Type} {p : Op α} (h : Op.Only (·.quiet) p) : Op.Only (·.over? = none) p :=
    Op.only_mono (fun c read => (c.aside_of_quiet read).2) h
  have storing : Op.Only (·.over? = none) (enter cluster database tags) :=
    only_bind (only_ofRefusal _) fun _ => only_bind (only_ofStore (Program.only_call rfl)) fun _ => only_pure _
  refine only_bind (quiet only_loadRecord) fun c? => ?_
  cases c? with
  | none => exact only_refuse _
  | some c =>
    cases database with
    | none => exact storing
    | some name =>
      refine only_bind (quiet only_loadRecord) fun d? => ?_
      cases d? with
      | none => exact only_bind (only_refuse _) fun _ => storing
      | some d => exact storing

theorem Reclaim.silent_purgeCluster {name : String} : Op.Only (·.over? = none) (purgeCluster name) := by
  refine only_bind (Op.only_mono (fun c read => (c.aside_of_quiet read).2) only_readCluster) fun _ => ?_
  refine only_bind (only_ofStore (Program.only_call rfl)) fun _ => only_bind (only_lift ?_) fun closed => ?_
  · exact Program.only_mono Call.over?_of_tends Connections.tends_invalidate
  · cases closed <;> exact only_pure _

/-- Commands that may read the record of a deleted cluster say nothing over any connection, unless they revoke. -/
theorem Command.silent {c : ClusterRecord} (stored : Loads ClusterRecord.decode s.values (StoreKeys.cluster cluster) (some c))
    (deleted : c.disabled = true) (reads : command.scope.reads cluster) (other : ∀ secret, command ≠ revokeCredential secret)
    (run : Surroundings.Runs i command.op.run s reply t) : s.Made (·.over? = none) t := by
  have barring (wants : command.Wants cluster) : s.Made (·.over? = none) t :=
    Surroundings.made_of_heard run (barred stored deleted wants run).2.heard
  have silent (only : Op.Only (·.over? = none) command.op) : s.Made (·.over? = none) t := by
    have ended := Program.wp_demonic_iff.1 (Surroundings.wp_made (i := i) only (.refl _ s)) _ _ run
    cases reply <;> exact ended
  cases command with
  | registerCluster | deleteCluster | registerDatabase | deleteDatabase | issueCredential | renewCredential =>
    exact barring reads.symm
  | cloneCluster => exact barring (reads.imp Eq.symm Eq.symm)
  | purgeCluster => exact silent (only_bind Reclaim.silent_purgeCluster fun _ => only_pure _)
  | writeTags => exact silent (only_bind TagIndex.silent_write fun _ => only_pure _)
  | inquire about => exact silent (Op.only_mono (fun c read => (c.aside_of_quiet read).2) about.only_op)
  | revokeCredential secret => exact absurd rfl (other secret)
  | _ => exact reads.elim

/-- Over connections that were opened from the record of a deleted cluster nothing is said, but by revocations aside. -/
theorem Session.said {c : ClusterRecord} (session : Session log s)
    (stored : Loads ClusterRecord.decode s.values (StoreKeys.cluster cluster) (some c)) (deleted : c.disabled = true)
    (run : Surroundings.Runs i command.op.run s reply t) :
    (∃ secret, command = .revokeCredential secret ∧ secret.cluster = cluster ∧ s.Aside t) ∨
      s.Made (fun call => ∀ conn, call.over? = some conn → ¬OpenedFrom cluster (⟨s, command, reply⟩ :: log) t conn) t := by
  have named := session.named stored
  have inactive := not_activeCluster stored deleted
  have attended := Command.attended run
  by_cases reads : command.scope.reads cluster
  · by_cases revokes : ∃ secret, command = .revokeCredential secret
    · obtain ⟨secret, rfl⟩ := revokes
      have aside : Op.wp (alone i) (fun _ t => s.Aside t) (fun _ t => s.Aside t) (Command.revokeCredential secret).op s := by
        refine wp_unkept.2 (Credentials.wp_revokeCredential_inactive fun active => inactive ?_)
        exact (show cluster = secret.cluster from reads) ▸ active.1
      have ended := Program.wp_demonic_iff.1 aside _ _ run
      exact .inl ⟨secret, rfl, reads.symm, by cases reply <;> exact ended⟩
    · refine .inr ((Command.silent stored deleted reads (fun secret same => revokes ⟨secret, same⟩) run).mono ?_)
      exact fun call silent conn used => absurd (silent.symm.trans used) nofun
  · refine .inr (attended.calls.mono fun call admitted conn used => ?_)
    rintro (here | before)
    · exact Surroundings.not_draws_of_made named attended.calls reads here
    · have own : s.Own conn := by cases call <;> first | (cases used; done) | exact admitted conn used
      rcases own with fresh | ⟨key, cached⟩
      · exact fresh (session.opened_of_openedFrom before)
      · refine session.cached_apart named cached (fun same => inactive ?_) before
        exact same ▸ (session.usable cached).cluster

/-! ## What is kept -/

/-- The cluster was purged. -/
def Entry.Purges (cluster : String) (e : Entry) : Prop := e.Succeeds ∧ e.command = .purgeCluster cluster

/-- The record of a database is as it was, unless it was that of a deleted one and has been purged. -/
def DatabaseKept (cluster : String) (before : Surroundings) (later : List Entry) (s : Surroundings) (name : String) : Prop :=
  s.values.get? (StoreKeys.database cluster name) = before.values.get? (StoreKeys.database cluster name) ∨
    s.values.get? (StoreKeys.database cluster name) = none ∧
      (∃ d, Loads DatabaseRecord.decode before.values (StoreKeys.database cluster name) (some d) ∧ d.disabled = true) ∧
      ∃ e ∈ later, e.Succeeds ∧ e.command = .purgeDatabase cluster name

/-- What is stored of a cluster that was deleted in the state `before`, with what was run since. -/
structure KeptSince (cluster : String) (before : Surroundings) (later : List Entry) (s : Surroundings) : Prop where
  record : ∃ c, Loads ClusterRecord.decode before.values (StoreKeys.cluster cluster) (some c) ∧
    s.values.get? (StoreKeys.cluster cluster) = some ({ c with disabled := true } : ClusterRecord).encode
  databases : ∀ name, DatabaseKept cluster before later s name

namespace KeptSince

variable {before : Surroundings} {later : List Entry}

theorem stored (kept : KeptSince cluster before later s) :
    ∃ c, Loads ClusterRecord.decode s.values (StoreKeys.cluster cluster) (some c) ∧ c.disabled = true := by
  obtain ⟨c, -, left⟩ := kept.record
  exact ⟨{ c with disabled := true }, ⟨_, left, ClusterRecord.decode_encode _⟩, rfl⟩

/-- The deletion marks the record and leaves those of the databases as they are. -/
theorem deleted {a : Option Credential} (session : Session log s)
    (run : Surroundings.Runs i (Command.deleteCluster cluster).op.run s (.ok a) t) : KeptSince cluster s [] t := by
  obtain ⟨results, decided, left⟩ :=
    Command.of_wp_op run (wp_unkept.2 ((Fleet.deleteClusterChange cluster).wp_decided rfl))
  obtain ⟨c, loads, -, rfl⟩ := Fleet.deletion_eq_write decided
  refine ⟨⟨c, loads, left⟩, fun name => .inl ?_⟩
  rcases Command.database_altered name session.wellFiled (session.named loads) run with same | ⟨-, altered⟩
  · exact same
  · cases altered

/-- What runs after it leaves them too, unless the cluster is purged. -/
theorem step (kept : KeptSince cluster before later s) (session : Session log s)
    (run : Surroundings.Runs i command.op.run s reply t) (stays : ¬Entry.Purges cluster ⟨s, command, reply⟩) :
    KeptSince cluster before (⟨s, command, reply⟩ :: later) t := by
  obtain ⟨c, stored, deleted⟩ := kept.stored
  have named := session.named stored
  have barred (done : Entry.Succeeds ⟨s, command, reply⟩) : ¬command.Wants cluster := by
    intro wants
    obtain ⟨⟨e, failed⟩, -⟩ := Command.barred stored deleted wants run
    obtain ⟨a, done⟩ := done
    cases failed.symm.trans done
  constructor
  · obtain ⟨c, loads, left⟩ := kept.record
    rcases Command.cluster_altered named run with same | ⟨done, altered⟩
    · exact ⟨c, loads, same.trans left⟩
    · cases altered with
      | registers | deletes => exact absurd rfl (barred done)
      | clones source request own => exact absurd (.inr own) (barred done)
      | purges => exact absurd ⟨done, rfl⟩ stays
  · intro name
    have earlier (same : t.values.get? (StoreKeys.database cluster name) = s.values.get? (StoreKeys.database cluster name)) :
        DatabaseKept cluster before (⟨s, command, reply⟩ :: later) t name := by
      rw [DatabaseKept, same]
      refine (kept.databases name).imp_right fun ⟨gone, was, e, member, purged⟩ => ⟨gone, was, e, ?_, purged⟩
      exact List.mem_cons_of_mem _ member
    rcases Command.database_altered name session.wellFiled named run with same | ⟨done, altered⟩
    · exact earlier same
    · cases altered with
      | registers | deletes => exact absurd rfl (barred done)
      | copies source request own => exact absurd (.inr own) (barred done)
      | purges =>
        rcases Command.alters run (StoreKeys.database cluster name) with same | ⟨-, -, gone⟩
        · exact earlier same
        · obtain ⟨a, rfl⟩ := done
          obtain ⟨d, loads, marked⟩ := Command.purged_database run
          refine .inr ⟨gone, ?_, _, List.mem_cons_self, ⟨a, rfl⟩, rfl⟩
          rcases kept.databases name with same | ⟨missing, -⟩
          · exact ⟨d, by rwa [Loads, ← same], marked⟩
          · obtain ⟨text, found, -⟩ := loads
            cases missing.symm.trans found

end KeptSince

theorem Session.keptSince {before : Surroundings} {later earlier : List Entry} {a : Option Credential}
    (session : Session (later ++ ⟨before, .deleteCluster cluster, .ok a⟩ :: earlier) s)
    (unpurged : ∀ e ∈ later, ¬e.Purges cluster) : KeptSince cluster before later s := by
  induction later generalizing s with
  | nil =>
    cases session with
    | next earlier run => exact .deleted earlier run
  | cons e later ih =>
    cases session with
    | next earlier run =>
      have kept := ih earlier fun e member => unpurged e (List.mem_cons_of_mem _ member)
      exact kept.step earlier run (unpurged _ List.mem_cons_self)

/-! ## Until it is purged -/

/-- What holds of a cluster that was deleted and is not yet purged, after the commands in `log`. -/
structure AwaitsPurge (cluster : String) (before : Surroundings) (later log : List Entry) (s : Surroundings) : Prop
    extends KeptSince cluster before later s where
  /-- What wants the cluster active fails, stores and caches nothing and says nothing to servers. -/
  barred : ∀ (i : Nat) (command : Command) (reply : Except BrokerError (Option Credential)) (t : Surroundings),
    command.Wants cluster → Surroundings.Runs i command.op.run s reply t → (∃ e, reply = .error e) ∧ s.Untouched t
  /-- Over connections that were opened from the record nothing is said, but by revocations aside. -/
  said : ∀ (i : Nat) (command : Command) (reply : Except BrokerError (Option Credential)) (t : Surroundings),
    Surroundings.Runs i command.op.run s reply t →
    (∃ secret, command = .revokeCredential secret ∧ secret.cluster = cluster ∧ s.Aside t) ∨
      s.Made (fun call => ∀ conn, call.over? = some conn → ¬OpenedFrom cluster (⟨s, command, reply⟩ :: log) t conn) t
  listed : ∀ i : Nat, Op.wp (alone i) (fun names _ => cluster ∈ names) (fun e _ => Unreached e) Fleet.listClusters s
  reclaimable : ∀ i : Nat, Op.wp (alone i) (fun names _ => cluster ∈ names) (fun e _ => Unreached e) Reclaim.listClusters s

/-- From its deletion until it is purged a cluster is out of use, whatever runs. -/
theorem Session.deleted_cluster_awaits_purge {before : Surroundings} {later earlier : List Entry} {a : Option Credential}
    (session : Session (later ++ ⟨before, .deleteCluster cluster, .ok a⟩ :: earlier) s)
    (unpurged : ∀ e ∈ later, ¬e.Purges cluster) :
    AwaitsPurge cluster before later (later ++ ⟨before, .deleteCluster cluster, .ok a⟩ :: earlier) s := by
  have kept := session.keptSince unpurged
  obtain ⟨c, stored, deleted⟩ := kept.stored
  refine { kept with
    barred := fun _ _ _ _ wants run => Command.barred stored deleted wants run
    said := fun _ _ _ _ run => session.said stored deleted run
    listed := fun _ => ?_
    reclaimable := fun _ => ?_ }
  · exact wp_mono (Fleet.wp_listClusters session.wellFiled) (fun _ _ lists => (lists cluster).2 ⟨c, stored⟩) fun _ _ h => h
  · exact wp_mono (Reclaim.wp_listClusters session.wellFiled) (fun _ _ lists => (lists cluster).2 ⟨c, stored, deleted⟩)
      fun _ _ h => h

/-- A cluster can be deleted after its only database, and their records stay. -/
theorem Session.exists_deleted : ∃ before earlier s c d,
    Session (⟨before, .deleteCluster "main", .ok none⟩ :: earlier) s ∧
      Loads ClusterRecord.decode s.values (StoreKeys.cluster "main") (some c) ∧ c.disabled = true ∧
      Loads DatabaseRecord.decode s.values (StoreKeys.database "main" "app") (some d) ∧ d.disabled = true ∧
      Loads RoleRecord.decode s.values (StoreKeys.role "reader") (some (Command.requestedRole {} {})) := by
  obtain ⟨_, _, s₀, c, d, session, stored, active, loads, active', pattern⟩ := exists_registered {} {} (by decide +kernel)
  obtain ⟨before, run, loads⟩ := Command.runs_deleteDatabase (i := 0) stored active loads active'
  have same {key : String} (other : key ≠ StoreKeys.database "main" "app") : before.values.get? key = s₀.values.get? key :=
    Command.kept_beside run (fun _ altered => altered.1) other
  rw [Loads, ← same (StoreKeys.cluster_ne_own_database "main" "app")] at stored
  rw [Loads, ← same (StoreKeys.role_ne_database "reader" "main" "app")] at pattern
  obtain ⟨s, run', left⟩ := Command.runs_deleteCluster (i := 0) stored active
  have same' {key : String} (other : key ≠ StoreKeys.cluster "main") : s.values.get? key = before.values.get? key :=
    Command.kept_beside run' (fun _ altered => altered.1) other
  rw [Loads, ← same' (StoreKeys.cluster_ne_own_database "main" "app").symm] at loads
  rw [← same' (StoreKeys.role_ne_cluster "reader" "main")] at pattern
  exact ⟨before, _, s, _, _, (session.next run).next run', ⟨_, left, ClusterRecord.decode_encode _⟩, rfl, loads, rfl, pattern⟩

/-- A cluster is deleted after its only database. That no login is issued there any more, that a lease is revoked and that
    the record of the database is purged leaves it out of use. -/
theorem Session.new_cluster_awaits_purge : ∃ before refused revoked purged s why earlier,
    let later : List Entry :=
      [⟨purged, .purgeDatabase "main" "app", .ok none⟩,
        ⟨revoked, .revokeCredential ⟨"reader", "login", "main", "app"⟩, .ok none⟩,
        ⟨refused, .issueCredential {} "main" "app" "reader" "ada", .error why⟩]
    Session (later ++ ⟨before, .deleteCluster "main", .ok none⟩ :: earlier) s ∧
      AwaitsPurge "main" before later (later ++ ⟨before, .deleteCluster "main", .ok none⟩ :: earlier) s := by
  obtain ⟨before, earlier, refused, c, d, session, stored, deleted, loads, deleted', pattern⟩ := exists_deleted
  obtain ⟨reply, revoked, run, -⟩ := Program.wp_angelic_iff.1 (Surroundings.wp_lucky_of_alone
    (Surroundings.wp_alone_any (i := 0) (Command.issueCredential {} "main" "app" "reader" "ada").op.run refused))
  have wants : (Command.issueCredential {} "main" "app" "reader" "ada").Wants "main" := rfl
  obtain ⟨⟨why, rfl⟩, untouched⟩ := Command.barred stored deleted wants run
  rw [← untouched.values] at stored loads pattern
  obtain ⟨purged, run', same⟩ : ∃ t, Surroundings.Runs 0
      (Command.revokeCredential ⟨"reader", "login", "main", "app"⟩).op.run revoked (.ok none) t ∧ t.values = revoked.values :=
    Credentials.runs_revokeCredential pattern stored loads
  rw [← same] at loads
  obtain ⟨s, run'', -⟩ := Command.runs_purgeDatabase (i := 0) loads deleted'
  have ended := ((session.next run).next run').next run''
  refine ⟨before, refused, revoked, purged, s, why, earlier, ended, deleted_cluster_awaits_purge ended ?_⟩
  rintro e member ⟨-, purges⟩
  simp only [List.mem_cons, List.not_mem_nil, or_false] at member
  rcases member with rfl | rfl | rfl <;> cases purges

end LeaseBroker
