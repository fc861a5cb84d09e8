import LeaseBroker.Proofs.ConnectionUse

/-!
What comes of operations on a cluster or a database that is not active. Every
operation that wants an active record reads it before it does anything else, and
stops there (`Stops`): nothing is stored, cached or told a server. Only
revocation goes on, over a connection of its own that is never cached and closed
when it is done (`Aside`).
-/
namespace LeaseBroker

open Op
open Surroundings (alone Untouched)

variable {α β : Type}

/-- A cluster is registered and not deleted. -/
def ActiveCluster (values : Table String) (cluster : String) : Prop :=
  ∃ c, Loads ClusterRecord.decode values (StoreKeys.cluster cluster) (some c) ∧ c.disabled = false

/-- A database is registered and not deleted. -/
def ActiveDatabase (values : Table String) (cluster name : String) : Prop :=
  ∃ d, Loads DatabaseRecord.decode values (StoreKeys.database cluster name) (some d) ∧ d.disabled = false

/-- A cluster with a record that says it was deleted is not active. -/
theorem not_activeCluster {values : Table String} {cluster : String} {c : ClusterRecord}
    (stored : Loads ClusterRecord.decode values (StoreKeys.cluster cluster) (some c)) (deleted : c.disabled = true) :
    ¬ActiveCluster values cluster := by
  rintro ⟨c', stored', active⟩
  obtain rfl := loads_unique stored stored'
  cases deleted.symm.trans active

section
variable (i : Nat) (s : Surroundings)

/-- From a state like `s`, `p` fails and does nothing. -/
def Op.Stops (p : Op α) : Prop :=
  ∀ t, s.Untouched t → Op.wp (alone i) (fun _ _ => False) (fun _ u => s.Untouched u) p t

end

variable {i : Nat} {s : Surroundings}

theorem stops_refuse (why : Refusal) : Op.Stops i s (refuse why : Op α) := fun _ same => same

theorem stops_refused {why : Refusal} {rest : α → Op β} : Op.Stops i s (refuse why >>= rest) :=
  fun _ same => (wp_bind ..).2 same

theorem stops_unless {b : Bool} {why : Refusal} {rest : Unit → Op β} (h : b = false → Op.Stops i s (rest ())) :
    Op.Stops i s (if b then refuse why >>= rest else rest ()) := by
  cases b with
  | false => exact h rfl
  | true => exact stops_refused

theorem stops_checked {r : Except Refusal α} {f : α → Op β} (h : ∀ a, r = .ok a → Op.Stops i s (f a)) :
    Op.Stops i s (ofRefusal r >>= f) := by
  intro t same
  cases r with
  | ok a => exact (wp_bind ..).2 (h a rfl t same)
  | error why => exact (wp_bind ..).2 same

/-- What stops on any record that may be loaded stops. -/
theorem stops_load {decode : String → Except String α} {key : String} {f : Option α → Op β}
    (h : ∀ a?, Loads decode s.values key a? → Op.Stops i s (f a?)) : Op.Stops i s (loadRecord decode key >>= f) := by
  intro t same
  refine wp_seq wp_loadRecord (fun a? u loaded => ?_) fun _ _ failed => same.trans failed.1
  exact h a? (same.values ▸ loaded.2) u (same.trans loaded.1)

theorem stops_bind {p : Op α} {f : α → Op β} (h : Op.Stops i s p) : Op.Stops i s (p >>= f) :=
  fun t same => wp_seq (h t same) (fun _ _ => False.elim) fun _ _ h => h

namespace Fleet

variable {cluster name : String}

/-- What reads the record of a cluster that is not active and wants it to be stops there. -/
theorem stops_inactive {missing deleted : Refusal} {f : ClusterRecord → Op α}
    (inactive : ¬ActiveCluster s.values cluster) : Op.Stops i s (do
      let some c ← loadCluster cluster | refuse missing
      if c.disabled then refuse deleted
      f c) := by
  refine stops_load fun c? stored => ?_
  cases c? with
  | none => exact stops_refuse missing
  | some c => exact stops_unless fun active => absurd ⟨c, stored, active⟩ inactive

theorem stops_deleteCluster (inactive : ¬ActiveCluster s.values cluster) : Op.Stops i s (deleteCluster cluster) :=
  stops_bind (stops_inactive inactive)

/-- A cluster that was deleted is not registered anew. -/
theorem stops_registerCluster {request : ClusterRequest} {c : ClusterRecord}
    (stored : Loads ClusterRecord.decode s.values (StoreKeys.cluster cluster) (some c)) (deleted : c.disabled = true) :
    Op.Stops i s (registerCluster cluster request) := by
  refine stops_checked fun _ _ => stops_load fun c? stored' => ?_
  cases c? with
  | none =>
    obtain ⟨text, found, -⟩ := stored
    cases found.symm.trans stored'
  | some c' =>
    obtain rfl := loads_unique stored stored'
    exact stops_unless fun active => absurd (deleted.symm.trans active) nofun

/-- A database is registered only in an active cluster, and where there is no record of it. -/
theorem stops_registerDatabase {request : DatabaseRequest}
    (unfit : ¬(ActiveCluster s.values cluster ∧ s.values.get? (StoreKeys.database cluster name) = none)) :
    Op.Stops i s (registerDatabase cluster name request) := by
  refine stops_checked fun _ _ => stops_checked fun _ _ => stops_load fun c? stored => ?_
  cases c? with
  | none => exact stops_refuse _
  | some c =>
    refine stops_unless fun active => stops_load fun d? free => ?_
    cases d? with
    | some d => exact stops_refused
    | none => exact absurd ⟨⟨c, stored, active⟩, free⟩ unfit

end Fleet

namespace Replicas

variable {source : String} {request : CloneRequest}

theorem stops_cloneCluster
    (unfit : ¬(ActiveCluster s.values source ∧ s.values.get? (StoreKeys.cluster request.target) = none)) :
    Op.Stops i s (cloneCluster source request) := by
  refine stops_bind ?_
  unfold checkClone
  refine stops_unless fun _ => ?_
  split
  · refine stops_load fun c? stored => ?_
    cases c? with
    | none => exact stops_refuse _
    | some c =>
      refine stops_unless fun active => stops_unless fun _ => stops_checked fun _ _ => stops_load fun taken free => ?_
      cases taken with
      | some taken => exact stops_refused
      | none => exact absurd ⟨⟨c, stored, active⟩, free⟩ unfit
  · exact stops_refuse _

end Replicas

namespace Credentials

variable {settings : Settings} {cluster name role displayName : String}

theorem stops_issueCredential (inactive : ¬(ActiveCluster s.values cluster ∧ ActiveDatabase s.values cluster name)) :
    Op.Stops i s (issueCredential settings cluster name role displayName) := by
  refine stops_load fun c? stored => ?_
  cases c? with
  | none => exact stops_refuse _
  | some c =>
    refine stops_unless fun active => stops_load fun d? stored' => ?_
    cases d? with
    | none => exact stops_refuse _
    | some d => exact stops_unless fun active' => absurd ⟨⟨c, stored, active⟩, d, stored', active'⟩ inactive

theorem stops_renewCredential {secret : LeaseSecret} {increment : Span} {issued : Instant}
    (inactive : ¬(ActiveCluster s.values secret.cluster ∧ ActiveDatabase s.values secret.cluster secret.database)) :
    Op.Stops i s (renewCredential settings secret increment issued) := by
  refine stops_load fun r? _ => ?_
  cases r? with
  | none => exact stops_refuse _
  | some r =>
    refine stops_load fun c? stored => ?_
    cases c? with
    | none => exact stops_refuse _
    | some c =>
      refine stops_unless fun active => stops_load fun d? stored' => ?_
      cases d? with
      | none => exact stops_refuse _
      | some d => exact stops_unless fun active' => absurd ⟨⟨c, stored, active⟩, d, stored', active'⟩ inactive

end Credentials

/-- What comes of a command that stops. -/
theorem Command.of_stops {t : Surroundings} {command : Command} {reply : Except BrokerError (Option Credential)}
    (run : Surroundings.Runs i command.op.run s reply t) (stops : Op.Stops i s command.op) :
    (∃ e, reply = .error e) ∧ s.Untouched t := by
  have ended := Program.wp_demonic_iff.1 (stops s (.refl s)) _ _ run
  cases reply with
  | ok a => exact ended.elim
  | error e => exact ⟨⟨e, rfl⟩, ended⟩

/-! ## Revocation -/

/-- A call that caches nothing and says nothing to a server over a connection. -/
def Call.Aside (c : Call) : Prop := !c.keeps ∧ c.over? = none

/-- A call that caches nothing, and says nothing to a server but over one connection. -/
def Call.Along (conn : Connection) (c : Call) : Prop := !c.keeps ∧ ∀ other, c.over? = some other → other = conn

theorem Call.aside_of_quiet (c : Call) (h : c.quiet) : c.Aside := by cases c <;> first | exact ⟨rfl, rfl⟩ | cases h

theorem Call.Aside.along {c : Call} (h : c.Aside) (conn : Connection) : c.Along conn :=
  ⟨h.1, fun _ used => absurd (h.2.symm.trans used) nofun⟩

theorem Call.along_of_over {c : Call} {conn : Connection} (used : c.over? = some conn) : c.Along conn := by
  refine ⟨?_, fun other used' => Option.some.inj (used'.symm.trans used)⟩
  cases c <;> first | rfl | cases used

/-- Nothing was cached, and nothing said to servers but over one connection: it was opened for that, and closed after the
    last that was said. -/
def Surroundings.Aside (s t : Surroundings) : Prop :=
  s.Made Call.Aside t ∨ ∃ conn u i r, s.Opens u conn ∧ s.Made (Call.Along conn) u ∧
    (u.after i (.close conn) r).Made Call.Aside t

theorem Surroundings.Aside.after {t : Surroundings} {c : Call} {r : c.Answer} (h : s.Aside t) (aside : c.Aside) :
    s.Aside (t.after i c r) := by
  rcases h with made | ⟨conn, u, j, r', opened, along, made⟩
  · exact .inl (made.after aside)
  · exact .inr ⟨conn, u, j, r', opened, along, made.after aside⟩

theorem Surroundings.Asked.aside {t : Surroundings} (h : s.Asked t) : s.Made Call.Aside t := h.made.mono Call.aside_of_quiet

namespace Credentials

variable {cluster : ClusterRecord} {database : String} {bindings : Bindings} {templates : List String} {conn : Connection}
  {t : Surroundings}

/-- All that is said for a revocation is said over its connection. -/
theorem wp_revoke_along : Op.wp (alone i) (fun _ u => s.Made (Call.Along conn) u) (fun _ u => s.Made (Call.Along conn) u) (do
    let t ← ofSql (Program.start conn)
    revokeWithin t bindings templates : Op (List Warning)) s := by
  refine (wp_bind_ofSql ..).2 (Surroundings.alone_iff.2 fun started allowed => ?_)
  have said := (Surroundings.Made.refl (Call.Along conn) s).after (i := i) (c := .start conn) (r := started)
    (Call.along_of_over rfl)
  cases started with
  | error e => exact said
  | ok transaction =>
    have own : transaction.connection = conn := (allowed transaction rfl).1
    have calls : Op.Only (Call.Along conn) (revokeWithin transaction bindings templates) :=
      calls_revokeWithin (fun _ => Call.along_of_over (congrArg some own)) (Call.along_of_over (congrArg some own))
    exact Surroundings.wp_made calls said

theorem wp_revokeUncached (before : s.Made Call.Aside t) : Op.wp (alone i) (fun _ u => s.Aside u) (fun _ u => s.Aside u)
    (revokeUncached cluster database bindings templates) t := by
  refine (wp_bind ..).2 ((wp_bind_ofSql ..).2 (Surroundings.alone_iff.2 fun opened allowed => ?_))
  cases opened with
  | error e => exact .inl (before.after ⟨rfl, rfl⟩)
  | ok conn =>
    have fresh : conn ∉ s.opened := fun old => (allowed conn rfl).2 conn (before.opened old) rfl
    refine (wp_bind_lift ..).2 (Surroundings.alone_iff.2 fun tallied _ => (wp_andAlways ..).2 ?_)
    generalize connected : (t.after i (.connect _) (.ok conn)).after i (.tally .opened) tallied = u
    have tending : s.Made Call.Aside u := connected ▸ (before.after ⟨rfl, rfl⟩).after ⟨rfl, rfl⟩
    have opened : conn ∈ u.opened := connected ▸ List.mem_cons_self
    -- Whatever comes of the statements, the connection is closed after them.
    have closing (v : Surroundings) (said : u.Made (Call.Along conn) v) :
        Program.wp (alone i) (fun _ w => s.Aside w) (Connections.closeQuietly conn) v := by
      refine (Program.wp_bind ..).2 (Surroundings.alone_iff.2 fun r _ => .inr ⟨conn, v, i, r, ⟨fresh, ?_⟩, ?_, .refl ..⟩)
      · exact said.opened opened
      · exact (tending.mono fun c h => h.along conn).trans said
    exact wp_mono wp_revoke_along (fun _ => closing) fun _ => closing

/-- The credentials of a cluster or a database that is not active are revoked aside, if at all. -/
theorem wp_revokeCredential_inactive {secret : LeaseSecret}
    (inactive : ¬(ActiveCluster s.values secret.cluster ∧ ActiveDatabase s.values secret.cluster secret.database)) :
    Op.wp (alone i) (fun _ t => s.Aside t) (fun _ t => s.Aside t) (revokeCredential secret) s := by
  have failed (e : BrokerError) (t : Surroundings) (asked : s.Asked t) : s.Aside t := .inl asked.aside
  refine Surroundings.wp_bind_asked (.refl s) failed only_revocationPlan fun plan t asked => ?_
  refine Surroundings.wp_load_asked asked failed fun c? t stored asked => ?_
  cases c? with
  | none => exact .inl asked.aside
  | some c =>
    refine Surroundings.wp_load_asked asked failed fun d? t stored' asked => ?_
    cases d? with
    | none => exact .inl asked.aside
    | some d =>
      dsimp only
      cases marked : c.disabled || d.disabled with
      | false =>
        obtain ⟨active, active'⟩ := Bool.or_eq_false_iff.1 marked
        exact absurd ⟨⟨c, stored, active⟩, d, stored', active'⟩ inactive
      | true =>
        refine wp_seq (wp_revokeUncached asked.aside) (fun warnings u revoked => ?_) fun _ _ failed => failed
        exact (wp_bind_lift ..).2 (Surroundings.alone_iff.2 fun _ _ => revoked.after ⟨rfl, rfl⟩)

end Credentials

end LeaseBroker
