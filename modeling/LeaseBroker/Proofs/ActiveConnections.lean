import LeaseBroker.Proofs.AlteredRecords
import LeaseBroker.Proofs.InactiveRecords

/-!
For whom connections are cached. Between commands they are for active clusters
only, and for no database that was deleted: who gets one has just read the
records, and who then deletes a record closes what was cached for it. With that,
and with what is known of where they lead, every cached connection can be used.
-/
namespace LeaseBroker

open Op
open Surroundings (alone lucky Untouched)

/-- What the key of a cached connection may name: an active cluster, and a database unless it was deleted. -/
structure ConnectionKey.Usable (values : Table String) (key : ConnectionKey) : Prop where
  cluster : ActiveCluster values key.cluster
  database : ∀ name, key.database = some name →
    ∀ d, Loads DatabaseRecord.decode values (StoreKeys.database key.cluster name) (some d) → d.disabled = false

variable {i : Nat} {s t : Surroundings} {command : Command} {reply : Except BrokerError (Option Credential)}
  {log : List Entry} {key : ConnectionKey} {c : Connection}

/-- A database that is active is not one that was deleted. -/
theorem ActiveDatabase.enabled {values : Table String} {cluster name : String} (active : ActiveDatabase values cluster name)
    {d : DatabaseRecord} (loads : Loads DatabaseRecord.decode values (StoreKeys.database cluster name) (some d)) :
    d.disabled = false := by
  obtain ⟨d', loads', enabled⟩ := active
  exact loads_unique loads' loads ▸ enabled

theorem ConnectionKey.usable_of_active {values : Table String} {cluster name : String} (active : ActiveCluster values cluster)
    (enabled : ∀ d, Loads DatabaseRecord.decode values (StoreKeys.database cluster name) (some d) → d.disabled = false)
    (own : (Scope.database cluster name).keeps key) : key.Usable values := by
  obtain ⟨rfl, only⟩ := own
  refine ⟨active, fun other named d loads => ?_⟩
  obtain rfl := only other named
  exact enabled d loads

namespace Surroundings

/-- Of the events of a run, the first call is the oldest. -/
theorem events_of_rest {α : Type} {p : Program α} {a : α} {u : Surroundings} {call : Call} {r : call.Answer}
    {events : List Event} (rest : Runs i p (u.after i call r) a t) (grown : t.history = events ++ u.history) :
    ∃ later, events = later ++ [⟨i, call, r⟩] ∧ t.history = later ++ (u.after i call r).history := by
  obtain ⟨later, grown'⟩ := history_grows rest
  refine ⟨later, List.append_cancel_right (grown.symm.trans (grown'.symm.trans ?_)), grown'.symm⟩
  rw [List.append_assoc]
  rfl

/-- Without a call that caches a connection only those are cached that were before. -/
theorem entries_of_made {α : Type} {p : Program α} {a : α} (run : Runs i p s a t) (made : s.Made (!·.keeps) t) :
    ∀ e ∈ t.broker.cache.entries, e ∈ s.broker.cache.entries := by
  induction run with
  | done => exact fun _ member => member
  | @call c next s t u r a reply rest ih =>
    obtain ⟨-, rfl⟩ := reply
    obtain ⟨events, grown, unkept⟩ := made
    obtain ⟨later, rfl, grown'⟩ := events_of_rest rest grown
    have first : !c.keeps := unkept ⟨i, c, r⟩ (List.mem_append_right _ (List.mem_singleton_self _))
    have after := ih ⟨later, grown', fun e member => unkept e (List.mem_append_left _ member)⟩
    intro e member
    refine (entries_after ?_ (after e member)).1
    rintro key g conn rfl
    cases first

theorem Aside.unkept (aside : s.Aside t) : s.Made (!·.keeps) t := by
  rcases aside with made | ⟨conn, u, j, r, -, along, made⟩
  · exact made.mono fun _ h => h.1
  · exact ((along.mono fun _ h => h.1).after rfl).trans (made.mono fun _ h => h.1)

end Surroundings

/-- Operations within an operation stop when it does. -/
theorem stops_unkept {α : Type} {p : Op α} (h : Op.Stops i s p) : Op.Stops i s p.unkept := stops_bind h

namespace Command

/-- A connection is only cached anew for what was usable when the command began. -/
theorem usable_of_cached (run : Surroundings.Runs i command.op.run s reply t)
    (cached : (key, c) ∈ t.broker.cache.entries) :
    (key, c) ∈ s.broker.cache.entries ∨ key.Usable s.values := by
  rcases (attended run).cached key c cached with before | ⟨keeps, -⟩
  · exact .inl before
  have stopped (stops : Op.Stops i s command.op) : (key, c) ∈ s.broker.cache.entries := by
    rw [← (of_stops run stops).2.broker]
    exact cached
  cases command with
  | registerDatabase cluster name request =>
    by_cases fit : ActiveCluster s.values cluster ∧ s.values.get? (StoreKeys.database cluster name) = none
    · refine .inr (ConnectionKey.usable_of_active fit.1 (fun d loads => ?_) keeps)
      obtain ⟨text, found, -⟩ := loads
      cases fit.2.symm.trans found
    · exact .inl (stopped (stops_unkept (Fleet.stops_registerDatabase fit)))
  | issueCredential settings cluster name role displayName =>
    by_cases active : ActiveCluster s.values cluster ∧ ActiveDatabase s.values cluster name
    · exact .inr (ConnectionKey.usable_of_active active.1 (fun _ => active.2.enabled) keeps)
    · exact .inl (stopped (stops_bind (Credentials.stops_issueCredential active)))
  | renewCredential settings secret increment issued =>
    by_cases active : ActiveCluster s.values secret.cluster ∧ ActiveDatabase s.values secret.cluster secret.database
    · exact .inr (ConnectionKey.usable_of_active active.1 (fun _ => active.2.enabled) keeps)
    · exact .inl (stopped (stops_unkept (Credentials.stops_renewCredential active)))
  | revokeCredential secret =>
    by_cases active : ActiveCluster s.values secret.cluster ∧ ActiveDatabase s.values secret.cluster secret.database
    · exact .inr (ConnectionKey.usable_of_active active.1 (fun _ => active.2.enabled) keeps)
    · have aside : Op.wp (alone i) (fun _ t => s.Aside t) (fun _ t => s.Aside t) (revokeCredential secret).op s :=
        wp_unkept.2 (Credentials.wp_revokeCredential_inactive active)
      have ended : s.Aside t := by
        have ended := Program.wp_demonic_iff.1 aside _ _ run
        cases reply <;> exact ended
      exact .inl (Surroundings.entries_of_made run ended.unkept _ cached)
  | _ => exact keeps.elim

/-- What was usable still is, as long as a connection is cached for it. -/
theorem usable_of_usable (session : Session log s) (run : Surroundings.Runs i command.op.run s reply t)
    (cached : (key, c) ∈ t.broker.cache.entries) (usable : key.Usable s.values) : key.Usable t.values := by
  obtain ⟨record, loads, active⟩ := usable.cluster
  have named := session.named loads
  have kept {a : Option Credential} {what : Eviction} (done : reply = .ok a) (evicts : command.evicts? = some what) :
      what.covers key = false := by
    subst done
    exact evicted run evicts key c cached
  -- A clone takes the place of no cluster that is registered.
  have other {source : String} {request : CloneRequest} {a : Option Credential}
      (run : Surroundings.Runs i (cloneCluster source request).op.run s (.ok a) t) : request.target ≠ key.cluster := by
    intro own
    obtain ⟨text, found, -⟩ := loads
    rw [← own, (checked_of_cloned run).2] at found
    cases found
  constructor
  · rcases cluster_altered named run with same | ⟨⟨a, done⟩, altered⟩
    · exact ⟨record, by rwa [Loads, same], active⟩
    · cases done
      cases altered with
      | registers | deletes | purges => exact absurd (kept rfl rfl) (by simp [Eviction.covers])
      | clones source request own => exact absurd own (other run)
  · intro name own d loads'
    rcases database_altered name session.wellFiled named run with same | ⟨⟨a, done⟩, altered⟩
    · rw [Loads, same] at loads'
      exact usable.database name own d loads'
    · cases done
      cases altered with
      | registers request =>
        obtain ⟨d', left, enabled⟩ := registered_database run
        obtain rfl := loads_unique loads' ⟨_, left, d'.decode_encode⟩
        exact enabled
      | deletes | purges => exact absurd (kept rfl rfl) (by simp [Eviction.covers, own])
      | copies source request own => exact absurd own (other run)

end Command

namespace Session

/-- Connections are cached only for what can be used. -/
theorem usable (session : Session log s) (cached : (key, c) ∈ s.broker.cache.entries) : key.Usable s.values := by
  induction session with
  | start => exact absurd cached List.not_mem_nil
  | next earlier run ih =>
    have before := (Command.usable_of_cached run cached).elim ih id
    exact Command.usable_of_usable earlier run cached before

end Session

/-! ## Where they were opened -/

namespace Surroundings

/-- Every connection was opened to where it leads. -/
def Dialled (s : Surroundings) : Prop := ∀ c ∈ s.opened, ∃ j, Event.mk j (.connect c.target) (.ok c) ∈ s.history

theorem Dialled.after {call : Call} {r : call.Answer} (dialled : s.Dialled) (allowed : s.Allows call r) :
    (s.after i call r).Dialled := by
  intro conn opened
  obtain ⟨event, member, own⟩ := List.mem_filterMap.1 opened
  rcases List.mem_cons.1 member with rfl | earlier
  · cases call with
    | connect target =>
      cases r with
      | error e => cases own
      | ok conn' =>
        cases own
        exact ⟨i, (allowed conn rfl).1 ▸ List.mem_cons_self⟩
    | _ => cases own
  · obtain ⟨j, before⟩ := dialled conn (List.mem_filterMap.2 ⟨event, earlier, own⟩)
    exact ⟨j, List.mem_cons_of_mem _ before⟩

theorem dialled_of_runs {α : Type} {p : Program α} {a : α} (run : Runs i p s a t) (dialled : s.Dialled) : t.Dialled := by
  induction run with
  | done => exact dialled
  | call reply _ ih =>
    obtain ⟨allowed, rfl⟩ := reply
    exact ih (dialled.after allowed)

end Surroundings

/-! ## A connection that is cached -/

/-- Some connection is cached for a key. -/
def Surroundings.Caches (s : Surroundings) (key : ConnectionKey) : Prop := ∃ c, (key, c) ∈ s.broker.cache.entries

namespace Session

/-- To register a database that is there, as is the owner of its objects. -/
def adoption : DatabaseRequest := { objectsOwner := "owner", createDatabase := false }

/-- The management connection to a new database is cached even if it cannot be used: its registration fails then. -/
theorem exists_cached : ∃ log s, Session log s ∧ s.Caches ⟨.management, "main", some "app"⟩ := by
  have main : Names.isName "main" := by decide +kernel
  have app : Names.isName "app" := by decide +kernel
  obtain ⟨s, c, registered, stored, active, free⟩ := exists_cluster
  have left : Op.wp (lucky 0) (fun _ _ => False) (fun _ t => t.Caches ⟨.management, "main", some "app"⟩)
      (Command.registerDatabase "main" "app" adoption).op s := by
    refine wp_unkept.2 (wp_passed (Command.check_of_isName main) (wp_passed (Command.check_of_isName app) ?_))
    refine wp_lucky_load stored fun t same => ?_
    dsimp only
    rw [active]
    replace free : Loads DatabaseRecord.decode t.values (StoreKeys.database "main" "app") none := same ▸ free "app"
    refine wp_lucky_load free fun u same' => ?_
    have loads : Loads ClusterRecord.decode u.values (StoreKeys.cluster "main") (some c) := by
      rwa [same', same]
    refine (wp_bind ..).2 ((wp_bind ..).2 ((wp_bind ..).2 ((wp_bind ..).2 ?_)))
    refine wp_mono (Connections.wp_lucky_get ⟨.management, "main", some "app"⟩ loads) (fun conn v cached => ?_)
      fun _ _ => False.elim
    refine (wp_bind_lift ..).2 (Surroundings.lucky_iff.2 ⟨.error (.transaction ""), nofun, ?_⟩)
    exact ⟨conn, cached⟩
  obtain ⟨reply, t, run, ended⟩ := Program.wp_angelic_iff.1 left
  cases reply with
  | ok a => exact ended.elim
  | error e => exact ⟨_, t, registered.next run, ended⟩

end Session

/-! ## Every cached connection -/

namespace Session

theorem dialled (session : Session log s) : s.Dialled := by
  induction session with
  | start => nofun
  | next _ run ih => exact Surroundings.dialled_of_runs run ih

theorem opened_of_cached (session : Session log s) (cached : (key, c) ∈ s.broker.cache.entries) : c ∈ s.opened := by
  induction session with
  | start => exact absurd cached List.not_mem_nil
  | next _ run ih =>
    rcases (Command.attended run).cached key c cached with before | ⟨-, -, opened⟩
    · exact Surroundings.opened_of_suffix (Surroundings.history_grows run) (ih before)
    · exact opened

/-- Whatever ran and whatever failed, every cached connection is for an active cluster, was opened to where its record
    says, and is for no database that was deleted. -/
theorem cached_connections_usable (session : Session log s) (cached : (key, c) ∈ s.broker.cache.entries) :
    ∃ record, Loads ClusterRecord.decode s.values (StoreKeys.cluster key.cluster) (some record) ∧
      record.disabled = false ∧ c.target = record.target key.kind (key.database.getD record.database) ∧
      (∃ j, Event.mk j (.connect c.target) (.ok c) ∈ s.history) ∧
      ∀ name, key.database = some name →
        ∀ d, Loads DatabaseRecord.decode s.values (StoreKeys.database key.cluster name) (some d) → d.disabled = false := by
  have usable := session.usable cached
  obtain ⟨record, loads, active⟩ := usable.cluster
  obtain ⟨text, record', found, decoded, leads⟩ := session.resting (session.named loads) key c cached rfl
  obtain rfl := loads_unique loads ⟨text, found, decoded⟩
  exact ⟨record, loads, active, leads, session.dialled c (session.opened_of_cached cached), usable.database⟩

/-- There are sessions that leave a connection cached. -/
theorem left_connection_usable : ∃ log s c record, Session log s ∧
    (⟨.management, "main", some "app"⟩, c) ∈ s.broker.cache.entries ∧
      Loads ClusterRecord.decode s.values (StoreKeys.cluster "main") (some record) ∧ record.disabled = false ∧
      c.target = record.target .management "app" := by
  obtain ⟨log, s, session, c, cached⟩ := exists_cached
  obtain ⟨record, loads, active, leads, -⟩ := session.cached_connections_usable cached
  exact ⟨log, s, c, record, session, cached, loads, active, leads⟩

end Session

end LeaseBroker
