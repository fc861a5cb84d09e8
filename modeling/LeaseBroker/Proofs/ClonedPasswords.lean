import LeaseBroker.Proofs.AlteredRecords
import LeaseBroker.Proofs.PasswordRotations

/-!
Whether the passwords in the records are those that servers accept. A clone
changes two passwords on a server of the caller's choice, and its own record
holds both. The records of other clusters on that server are left alone, so
those that have one of these two logins hold an old password from then on.
-/
namespace LeaseBroker

open Op
open PasswordStatement (loginOf)

/-- The server lets in who connects to the target. -/
def Accounts.Admits (a : Accounts) (t : Target) : Prop := a t.endpoint (loginOf t.username) = some t.password

namespace Surroundings

/-- The record of an active cluster. -/
def Active (s : Surroundings) (name : String) (c : ClusterRecord) : Prop :=
  Loads ClusterRecord.decode s.values (StoreKeys.cluster name) (some c) ∧ c.disabled = false

/-- Servers let in whoever connects as the record of an active cluster says. -/
def Admitted (first : Accounts) (s : Surroundings) : Prop :=
  ∀ name c, s.Active name c → ∀ kind, (s.accounts first).Admits (c.target kind c.database)

end Surroundings

variable {first : Accounts} {log : List Entry} {s t : Surroundings} {i : Nat} {a : Option Credential} {name : String}

namespace Command

/-- What a registration that succeeds has made of the accounts. -/
theorem registered_accounts (first : Accounts) {request : ClusterRequest}
    (run : Surroundings.Runs i (registerCluster name request).op.run s (.ok a) t) :
    Fleet.RegisteredWith first name request s t :=
  of_wp_op run (wp_unkept.2 (wp_mono Fleet.wp_registerCluster_accounts (fun _ _ => id) fun _ _ _ => trivial))

/-- What a clone that succeeds has made of them. -/
theorem cloned_accounts (first : Accounts) {source : String} {request : CloneRequest}
    (run : Surroundings.Runs i (cloneCluster source request).op.run s (.ok a) t) :
    Replicas.ClonedWith first source request s t :=
  of_wp_op run (wp_unkept.2 (wp_mono Replicas.wp_cloneCluster_accounts (fun _ _ => id) fun _ _ _ => trivial))

/-- A clone leaves the record of every cluster but its own alone. -/
theorem active_of_cloned {source : String} {request : CloneRequest} {c : ClusterRecord} (named : Names.isName name)
    (run : Surroundings.Runs i (cloneCluster source request).op.run s (.ok a) t) (other : name ≠ request.target) :
    t.Active name c ↔ s.Active name c := by
  rcases Command.cluster_altered named run with same | ⟨-, altered⟩
  · rw [Surroundings.Active, Loads, same]
    rfl
  · cases altered with
    | clones _ _ own => exact absurd own.symm other

end Command

namespace Session

/-! ## A cluster and its clone -/

/-- After the first registration servers let in whoever connects as its record says. -/
theorem exists_admitted (password : String) : ∃ log s c, Session log s ∧ s.Admitted .submitted ∧ s.Active "main" c ∧
    s.values.get? (StoreKeys.cluster "copy") = none ∧ c.endpoint = ⟨"db", 5432⟩ ∧ c.username = "root" ∧
    c.managementRole = Names.managementRole 0 ∧ c.password = password := by
  have main : Names.isName "main" := by decide +kernel
  have copy : Names.isName "copy" := by decide +kernel
  obtain ⟨record, fine, enabled, place, user⟩ : ∃ record, exampleRequest.validate = .ok record ∧ record.disabled = false ∧
      record.endpoint = ⟨"db", 5432⟩ ∧ record.username = "root" := ⟨_, rfl, rfl, rfl, rfl⟩
  obtain ⟨s, run, stored, still⟩ :=
    Command.runs_registerCluster_as (i := 0) (s := .blank) main fine ⟨none, rfl, rfl⟩ 0 "" password
  have session := Session.start.next run
  have alone (name : String) (named : Names.isName name) (other : name ≠ "main") :
      s.values.get? (StoreKeys.cluster name) = none := by
    have beyond : Beyond "main" (StoreKeys.cluster name) :=
      ⟨fun same => other (StoreKeys.cluster_injective same),
        fun d => StoreKeys.cluster_ne_database (Names.slash_not_mem named) "main" d⟩
    exact still _ beyond
  obtain ⟨record', logins, fine', stored', accounts⟩ := Command.registered_accounts .submitted run
  cases fine.symm.trans fine'
  have same := ClusterRecord.encode_injective (Option.some.inj (stored'.symm.trans stored))
  have role : logins.managementRole = Names.managementRole 0 := congrArg ClusterRecord.managementRole same
  have root : loginOf record.username = "root" := by
    rw [user]
    decide +kernel
  have apart : loginOf logins.managementRole ≠ "root" := by
    rw [role]
    decide +kernel
  have unused : Surroundings.blank.accounts .submitted record.endpoint (loginOf logins.managementRole) = none :=
    Accounts.submitted_of_ne apart
  refine ⟨_, s, _, session, fun name d active kind => ?_, ⟨⟨_, stored, ClusterRecord.decode_encode _⟩, enabled⟩,
    alone "copy" copy (by decide +kernel), place, user, rfl, rfl⟩
  have own : name = "main" := by
    by_contra other
    obtain ⟨text, found, -⟩ := active.1
    cases (alone name (session.named active.1) other).symm.trans found
  subst own
  obtain rfl := loads_unique active.1 ⟨_, stored', ClusterRecord.decode_encode _⟩
  rw [accounts]
  cases kind with
  | root => exact Accounts.provision_root
  | management => exact Accounts.provision_management unused (root ▸ apart)

/-! ## Logins that are current -/

/-- Where the logins of all active clusters are current, a clone that succeeds has a root login that is, and a management
    login that is unless the server takes the two for one. Every other active cluster still has the logins that are not on
    the server of the clone, or are none of the two that were changed there. -/
theorem logins_current_after_clone {source : String} {request : CloneRequest} (session : Session log s)
    (admitted : s.Admitted first) (run : Surroundings.Runs i (Command.cloneCluster source request).op.run s (.ok a) t) :
    ∃ c port clone, Replicas.Source source request s.values c port ∧
      t.Active request.target clone ∧ clone.endpoint = ⟨request.host, port⟩ ∧
      (t.accounts first).Admits (clone.target .root clone.database) ∧
      (loginOf c.managementRole ≠ loginOf c.username →
        (t.accounts first).Admits (clone.target .management clone.database)) ∧
      ∀ name d, name ≠ request.target → t.Active name d → ∀ kind,
        (d.endpoint = ⟨request.host, port⟩ → loginOf (d.target kind d.database).username ≠ loginOf c.username ∧
          loginOf (d.target kind d.database).username ≠ loginOf c.managementRole) →
        (t.accounts first).Admits (d.target kind d.database) := by
  obtain ⟨c, port, managementPassword, rootPassword, cloned, stored, accounts⟩ :=
    Command.cloned_accounts first run
  refine ⟨c, port, _, cloned, ⟨⟨_, stored, ClusterRecord.decode_encode _⟩, cloned.active⟩, rfl, ?_, fun apart => ?_, ?_⟩
  · rw [accounts]
    exact Accounts.rotate_root
  · rw [accounts]
    exact Accounts.rotate_management apart
  · intro name d other active kind apart
    have named : Names.isName name := (session.next run).named active.1
    rw [accounts]
    exact (Accounts.rotate_of_ne apart).trans (admitted name d ((Command.active_of_cloned named run other).1 active) kind)

/-- A clone on another host, and the cluster it was made of. -/
theorem clone_elsewhere_admitted : ∃ log s t c clone, Session log s ∧ s.Admitted .submitted ∧
    Surroundings.Runs 0 (Command.cloneCluster "main" { target := "copy", host := "replica" }).op.run s (.ok none) t ∧
    t.Active "main" c ∧ t.Active "copy" clone ∧ ∀ kind,
      (t.accounts .submitted).Admits (c.target kind c.database) ∧
        (t.accounts .submitted).Admits (clone.target kind clone.database) := by
  have main : Names.isName "main" := by decide +kernel
  have copy : Names.isName "copy" := by decide +kernel
  obtain ⟨log, s, c, session, admitted, active, free, place, user, role, -⟩ := exists_admitted "second"
  obtain ⟨t, run, -⟩ := Command.runs_cloneCluster (i := 0) { target := "copy", host := "replica" } main copy
    (by decide +kernel) ⟨active.1, active.2, rfl⟩ free "" "third"
  obtain ⟨c', port, clone, cloned, active', -, root, management, others⟩ :=
    session.logins_current_after_clone admitted run
  obtain rfl := loads_unique active.1 cloned.loads
  have stays : t.Active "main" c := (Command.active_of_cloned main run (by decide +kernel)).2 active
  refine ⟨log, s, t, c, clone, session, admitted, run, stays, active', fun kind => ⟨?_, ?_⟩⟩
  · refine others "main" c (by decide +kernel) stays kind fun same => ?_
    rw [place] at same
    have hosts : "db" = "replica" := congrArg Endpoint.host same
    exact absurd hosts (by decide +kernel)
  · cases kind with
    | root => exact root
    | management =>
      refine management ?_
      rw [role, user]
      decide +kernel

/-- A clone on the host of its source: nobody can log in any more as the record of the source says. -/
theorem clone_locks_out_source : ∃ log s t c, Session log s ∧ s.Admitted .submitted ∧
    Surroundings.Runs 0 (Command.cloneCluster "main" { target := "copy", host := "db" }).op.run s (.ok none) t ∧
    t.Active "main" c ∧ ¬(t.accounts .submitted).Admits (c.target .root c.database) := by
  have main : Names.isName "main" := by decide +kernel
  have copy : Names.isName "copy" := by decide +kernel
  obtain ⟨log, s, c, session, admitted, active, free, place, user, role, known⟩ := exists_admitted "second"
  obtain ⟨t, run, stored⟩ := Command.runs_cloneCluster (i := 0) { target := "copy", host := "db" } main copy
    (by decide +kernel) ⟨active.1, active.2, rfl⟩ free "" "third"
  obtain ⟨c', port, managementPassword, rootPassword, cloned, stored', accounts⟩ :=
    Command.cloned_accounts .submitted run
  obtain rfl := loads_unique active.1 cloned.loads
  have same := ClusterRecord.encode_injective (Option.some.inj (stored'.symm.trans stored))
  obtain rfl : port = 5432 := congrArg ClusterRecord.port same
  obtain rfl : rootPassword = "third" := congrArg ClusterRecord.password same
  refine ⟨log, s, t, c, session, admitted, run, (Command.active_of_cloned main run (by decide +kernel)).2 active, ?_⟩
  intro admits
  have changed : t.accounts .submitted c.endpoint (loginOf c.username) = some "third" := by
    rw [accounts, place]
    exact Accounts.rotate_root
  have passwords : c.password = "third" := Option.some.inj (admits.symm.trans changed)
  exact absurd (known.symm.trans passwords) (by decide +kernel)

end Session

end LeaseBroker
