import LeaseBroker.Proofs.DatabaseLifecycles

/-!
What becomes of the databases of a cluster that was deleted or purged. Their
records stay, and one that was marked before goes with a request to purge it.
One that was not can no longer be marked, since its cluster is not active, and
is not purged, since it is not marked (`Command.orphan_stays`): it stays for good,
unless something takes the name of the cluster again.
-/
namespace LeaseBroker

open Op

variable {i : Nat} {s t : Surroundings} {cluster name : String}

namespace Command

variable {command : Command} {reply : Except BrokerError (Option Credential)}

/-- The command makes a cluster of this name. -/
def Takes (cluster : String) : Command → Prop
  | registerCluster name _ => name = cluster
  | cloneCluster _ request => request.target = cluster
  | _ => False

/-- A cluster becomes active only where a command takes its name. -/
theorem inactive_stays (filed : WellFiled s.values) (named : Names.isName cluster)
    (inactive : ¬ActiveCluster s.values cluster) (foreign : ¬command.Takes cluster)
    (run : Surroundings.Runs i command.op.run s reply t) : ¬ActiveCluster t.values cluster := by
  rintro ⟨c, stored, active⟩
  rcases cluster_moves filed named run with same | ⟨-, before, after, turns, moves⟩
  · rw [Loads, same] at stored
    exact inactive ⟨c, stored, active⟩
  · obtain rfl := loads_eq turns.2 stored
    cases moves with
    | registers => exact foreign rfl
    | clones own => exact foreign own
    | deletes enabled => exact inactive ⟨_, turns.1, enabled⟩

/-- The record of an active database stays as it is while its cluster is not active. -/
theorem orphan_stays (filed : WellFiled s.values) (named : Names.isName cluster)
    (inactive : ¬ActiveCluster s.values cluster) (foreign : ¬command.Takes cluster) {d : DatabaseRecord}
    (loads : Loads DatabaseRecord.decode s.values (StoreKeys.database cluster name) (some d)) (active : d.disabled = false)
    (run : Surroundings.Runs i command.op.run s reply t) :
    Loads DatabaseRecord.decode t.values (StoreKeys.database cluster name) (some d) := by
  rcases database_moves filed named name run with same | ⟨-, before, after, turns, moves⟩
  · rwa [Loads, same]
  · obtain rfl := loads_eq turns.1 loads
    cases moves with
    | deletes within => exact absurd within inactive
    | purges deleted => cases deleted.symm.trans active
    | copies own => exact absurd own foreign

end Command

/-! ## Calls of a host -/

namespace HostCall

/-- What calls can come to, of which none makes a cluster of this name. -/
inductive Elsewhere (cluster : String) (s : Surroundings) : Surroundings → Prop
  | start : Elsewhere cluster s s
  | call {i : Nat} {t u : Surroundings} {call : HostCall} {result : Except BrokerError Response}
      (before : Elsewhere cluster s t) (run : Surroundings.Runs i call.program t result u)
      (foreign : ∀ command, call.asked = .ok command → ¬command.Takes cluster) : Elsewhere cluster s u

theorem Elsewhere.reached (elsewhere : Elsewhere cluster s t) (reached : Reached s) : Reached t := by
  induction elsewhere with
  | start => exact reached
  | call _ run _ ih => exact ih.call run

/-- Calls that do not take the name of a cluster that is not active leave its active databases as they are. -/
theorem Elsewhere.kept (elsewhere : Elsewhere cluster s t) (reached : Reached s) {d : DatabaseRecord}
    (loads : Loads DatabaseRecord.decode s.values (StoreKeys.database cluster name) (some d)) (active : d.disabled = false)
    (inactive : ¬ActiveCluster s.values cluster) :
    Loads DatabaseRecord.decode t.values (StoreKeys.database cluster name) (some d) ∧ ¬ActiveCluster t.values cluster := by
  induction elsewhere with
  | start => exact ⟨loads, inactive⟩
  | @call i t u call result before run foreign ih =>
    obtain ⟨loads, inactive⟩ := ih
    have filed := (before.reached reached).wellFiled
    have named := (filed.named_database loads).1
    cases asks : call.asked with
    | error why =>
      obtain ⟨-, rfl⟩ := runs_unasked asks run
      exact ⟨loads, inactive⟩
    | ok command =>
      obtain ⟨reply, ran, -⟩ := runs_asked asks run
      have elsewhere := foreign command asks
      exact ⟨Command.orphan_stays filed named inactive elsewhere loads active ran,
        Command.inactive_stays filed named inactive elsewhere ran⟩

theorem asks_purgeDatabase (named : Names.isName cluster) (named' : Names.isName name) :
    (about .delete ["gc", "cluster", cluster, name] .empty).asked = .ok (.purgeDatabase cluster name) :=
  (Router.asked_of_route {} (.deletedDatabase cluster name) rfl (by simp [fine_name named, fine_name named'])
    (by simp [Router.namesValid, named, named']) rfl).trans rfl

/-- A database of a cluster that was deleted or purged is reclaimed by a request if it was deleted itself. If it was not, no
    calls reclaim it, unless one takes the name of its cluster. -/
theorem orphan_reclaimed_iff_deleted (reached : Reached s) (inactive : ¬ActiveCluster s.values cluster) {d : DatabaseRecord}
    (loads : Loads DatabaseRecord.decode s.values (StoreKeys.database cluster name) (some d)) :
    (d.disabled = true → ∃ r t, r.error = none ∧
      Surroundings.Runs i (about .delete ["gc", "cluster", cluster, name] .empty).program s (.ok r) t ∧
      Elsewhere cluster s t ∧ t.values.get? (StoreKeys.database cluster name) = none) ∧
    (d.disabled = false → ∀ t, Elsewhere cluster s t →
      Loads DatabaseRecord.decode t.values (StoreKeys.database cluster name) (some d)) := by
  constructor
  · intro deleted
    obtain ⟨named, named'⟩ := reached.wellFiled.named_database loads
    have asks := asks_purgeDatabase named named'
    obtain ⟨t, run, gone⟩ := Command.runs_purgeDatabase (i := i) loads deleted
    obtain ⟨told, call, r, rfl, plain⟩ := runs_told asks run
    have foreign : ∀ command, (about .delete ["gc", "cluster", cluster, name] .empty).asked = .ok command →
        ¬command.Takes cluster := by
      rintro command asked takes
      cases asks.symm.trans asked
      exact takes
    exact ⟨r, t, plain, call, .call .start call foreign, gone⟩
  · intro active t elsewhere
    exact (elsewhere.kept reached loads active inactive).1

/-- There is a database that is never reclaimed, and that of a purged cluster that is. -/
theorem orphans_kept_and_reclaimed :
    (∃ s d, Reached s ∧ ¬ActiveCluster s.values "main" ∧ d.disabled = false ∧
      Loads DatabaseRecord.decode s.values (StoreKeys.database "main" "app") (some d) ∧
      ∀ t, Elsewhere "main" s t → Loads DatabaseRecord.decode t.values (StoreKeys.database "main" "app") (some d)) ∧
    ∃ s t, Reached s ∧ s.values.get? (StoreKeys.cluster "main") = none ∧
      (∃ d, Loads DatabaseRecord.decode s.values (StoreKeys.database "main" "app") (some d)) ∧
      Elsewhere "main" s t ∧ t.values.get? (StoreKeys.database "main" "app") = none := by
  have main : Names.isName "main" := by decide +kernel
  have app : Names.isName "app" := by decide +kernel
  constructor
  · obtain ⟨s, c, d, reached, stored, active, loads, active', -⟩ := Reached.start.enlisted main app rfl rfl
    obtain ⟨t, run, left⟩ := Command.runs_deleteCluster (i := 0) stored active
    obtain ⟨-, -, reached⟩ := reached.told (asks_deleteCluster main) run
    have loads : Loads DatabaseRecord.decode t.values (StoreKeys.database "main" "app") (some d) := by
      have other := StoreKeys.cluster_ne_own_database "main" "app"
      rwa [Loads, Command.kept_beside run (fun _ altered => altered.1) other.symm]
    have inactive := not_activeCluster (loads_encoded left) rfl
    exact ⟨t, d, reached, inactive, active', loads,
      (orphan_reclaimed_iff_deleted (i := 0) reached inactive loads).2 active'⟩
  · obtain ⟨s, d, reached, vacant, loads, deleted, -⟩ := Reached.start.outlived main app rfl rfl
    have inactive : ¬ActiveCluster s.values "main" := by
      rintro ⟨c, ⟨text, found, -⟩, -⟩
      cases vacant.symm.trans found
    obtain ⟨r, t, -, -, elsewhere, gone⟩ := (orphan_reclaimed_iff_deleted (i := 0) reached inactive loads).1 deleted
    exact ⟨s, t, reached, vacant, ⟨d, loads⟩, elsewhere, gone⟩

end HostCall

end LeaseBroker
