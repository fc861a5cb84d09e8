import LeaseBroker.Proofs.Footprints
import LeaseBroker.Proofs.Interleaving
import LeaseBroker.Proofs.RecordKeys
import LeaseBroker.Proofs.RecordText

/-!
Cached connections lead where the stored record of their cluster says. Whoever
changes a record must invalidate the cluster afterwards, and in between the
cluster is unsettled: only then may a connection in the cache be out of date.
What makes this hold for every order of calls is that a connection is kept only
at the generation that was read before the record was. As long as a generation
stands, the record can only have changed if its cluster is still unsettled
(`Onward`), so what was opened from the record then is still current, or the
cluster is.
-/
namespace LeaseBroker

namespace Surroundings

/-- Whether a caller has changed the record of a cluster and not invalidated the cluster since. -/
def ChangedBy (asker : Nat) (cluster : String) : List Event → Prop
  | [] => False
  | e :: earlier =>
    e.asker = asker ∧ (e.left? (StoreKeys.cluster cluster)).isSome ∨
      ¬(e.asker = asker ∧ e.call = .evict (.cluster cluster)) ∧ ChangedBy asker cluster earlier

/-- Some caller is between its change of the record of a cluster and its invalidation. -/
def Unsettled (s : Surroundings) (cluster : String) : Prop := ∃ asker, ChangedBy asker cluster s.history

/-- A connection leads where a stored text says that one for its key leads. -/
def Fits (key : ConnectionKey) (c : Connection) (text? : Option String) : Prop :=
  ∃ text record, text? = some text ∧ ClusterRecord.decode text = .ok record ∧
    c.target = record.target key.kind (key.database.getD record.database)

/-- What is stored as the record of a cluster. -/
def recordText (s : Surroundings) (cluster : String) : Option String := s.values.get? (StoreKeys.cluster cluster)

/-- A connection leads where the record that is stored now says. -/
def Current (s : Surroundings) (key : ConnectionKey) (c : Connection) : Prop := Fits key c (s.recordText key.cluster)

/-- Where the record of its cluster is stored, a connection that is current leads where that says. -/
theorem Current.target_eq {s : Surroundings} {key : ConnectionKey} {c : Connection} {record : ClusterRecord}
    (current : Current s key c) (stored : s.recordText key.cluster = some record.encode) :
    c.target = record.target key.kind (key.database.getD record.database) := by
  obtain ⟨text, decoded, found, decodes, target⟩ := current
  obtain rfl := Option.some.inj (stored.symm.trans found)
  rw [ClusterRecord.decode_encode] at decodes
  cases decodes
  exact target

/-- Every cached connection is current, unless its cluster is unsettled. -/
def Guarded (s : Surroundings) : Prop :=
  ∀ key c, (key, c) ∈ s.broker.cache.entries → Current s key c ∨ Unsettled s key.cluster

def generation (s : Surroundings) (cluster : String) : Nat := s.broker.cache.generation cluster

/-! ## What any step does to a cluster -/

/-- From `s` to `t` a generation that stood still saw no change of the record, unless it left the cluster
    unsettled. -/
structure Onward (s t : Surroundings) : Prop where
  raised : ∀ cluster, s.generation cluster ≤ t.generation cluster
  same : ∀ cluster, s.generation cluster = t.generation cluster →
    s.recordText cluster = t.recordText cluster ∨ Unsettled t cluster
  unsettled : ∀ cluster, s.generation cluster = t.generation cluster → Unsettled s cluster → Unsettled t cluster

theorem Onward.refl (s : Surroundings) : Onward s s :=
  ⟨fun _ => Nat.le_refl _, fun _ _ => .inl rfl, fun _ _ h => h⟩

theorem Onward.trans (s t u : Surroundings) (h : Onward s t) (h' : Onward t u) : Onward s u := by
  have between (cluster : String) (stood : s.generation cluster = u.generation cluster) :
      s.generation cluster = t.generation cluster ∧ t.generation cluster = u.generation cluster := by
    have := h.raised cluster
    have := h'.raised cluster
    omega
  refine ⟨fun cluster => Nat.le_trans (h.raised cluster) (h'.raised cluster), ?_, ?_⟩
  · intro cluster stood
    obtain ⟨first, second⟩ := between cluster stood
    rcases h'.same cluster second with same' | unsettled
    · rcases h.same cluster first with same | unsettled
      · exact .inl (same.trans same')
      · exact .inr (h'.unsettled cluster second unsettled)
    · exact .inr unsettled
  · intro cluster stood unsettled
    obtain ⟨first, second⟩ := between cluster stood
    exact h'.unsettled cluster second (h.unsettled cluster first unsettled)

section Steps
variable {s : Surroundings} {i : Nat} {c : Call} {r : c.Answer} {cluster : String}

theorem entries_after (notKept : ∀ key g d, c ≠ .keep key g d) {e : ConnectionKey × Connection}
    (h : e ∈ (s.after i c r).broker.cache.entries) :
    e ∈ s.broker.cache.entries ∧ ∀ what, c = .evict what → what.covers e.1 = false := by
  cases c with
  | keep key g d => exact absurd rfl (notKept key g d)
  | evict what =>
    obtain ⟨member, uncovered⟩ := List.mem_filter.1 h
    exact ⟨member, fun _ same => by cases same; simpa using uncovered⟩
  | _ => exact ⟨h, nofun⟩

/-- Only the connection that is to be kept may come in, and only at the generation that stands. -/
theorem entries_after_keep {key : ConnectionKey} {g : Nat} {d : Connection} {r : ConnectionCache.Placement}
    {e : ConnectionKey × Connection} (h : e ∈ (s.after i (.keep key g d) r).broker.cache.entries) :
    e ∈ s.broker.cache.entries ∨ s.generation key.cluster = g ∧ e = (key, d) := by
  have cache : (s.after i (.keep key g d) r).broker.cache = (s.broker.cache.keep key g d).2 :=
    BrokerState.cache_keep ..
  rw [cache] at h
  rcases ConnectionCache.keep_eq s.broker.cache key g d with same | ⟨stands, -, added⟩
  · rw [same] at h
    exact .inl h
  · rw [added] at h
    exact (List.mem_append.1 h).imp_right fun new => ⟨stands, List.mem_singleton.1 new⟩

theorem generation_after_evict {what : Eviction} {r : (Call.evict what).Answer} :
    (s.after i (.evict what) r).generation cluster = s.generation cluster + (s.broker.cache.raisedBy what).count cluster :=
  ConnectionCache.generation_evict ..

/-- Only invalidations raise generations. -/
theorem generation_of_not_evict (other : ∀ what, c ≠ .evict what) :
    (s.after i c r).generation cluster = s.generation cluster := by
  cases c with
  | keep key g d =>
    show (s.broker.keep key g d).2.cache.generation cluster = s.broker.cache.generation cluster
    rw [BrokerState.cache_keep]
    rcases ConnectionCache.keep_eq s.broker.cache key g d with same | ⟨-, -, added⟩
    · rw [same]
    · rw [added]
      rfl
  | evict what => exact absurd rfl (other what)
  | _ => rfl

theorem generation_after : s.generation cluster ≤ (s.after i c r).generation cluster ∧
    ∀ what, c = .evict what → cluster ∈ s.broker.cache.raisedBy what →
      s.generation cluster < (s.after i c r).generation cluster := by
  cases c with
  | evict what =>
    rw [generation_after_evict]
    refine ⟨by omega, ?_⟩
    rintro _ ⟨⟩ concerned
    have counted := List.count_pos_iff.2 concerned
    omega
  | _ =>
    refine ⟨Nat.le_of_eq (generation_of_not_evict fun what same => ?_).symm, nofun⟩
    cases same

theorem generation_of_missing {key : ConnectionKey} {g : Nat} (looked : s.Allows (.find key) (.missing g)) :
    s.generation key.cluster = g := by
  replace looked : .missing g = s.broker.cache.find key := looked
  unfold ConnectionCache.find at looked
  split at looked
  · cases looked
  · exact (ConnectionCache.Found.missing.inj looked).symm

/-- A change of a record leaves its cluster unsettled. -/
theorem recordText_after (cluster : String) : (s.after i c r).recordText cluster = s.recordText cluster ∨
    Unsettled (s.after i c r) cluster := by
  cases left : (Event.mk i c r).left? (StoreKeys.cluster cluster) with
  | none => exact .inl (by rw [recordText, get?_after, left]; rfl)
  | some v => exact .inr ⟨i, .inl ⟨rfl, by rw [left]; rfl⟩⟩

/-- Only an invalidation of the whole cluster settles it. -/
theorem unsettled_after (other : c ≠ .evict (.cluster cluster)) (h : Unsettled s cluster) :
    Unsettled (s.after i c r) cluster := by
  obtain ⟨asker, changed⟩ := h
  exact ⟨asker, .inr ⟨fun own => other own.2, changed⟩⟩

theorem onward_after : Onward s (s.after i c r) := by
  refine ⟨fun _ => generation_after.1, fun cluster _ => ?_, fun cluster stood unsettled => ?_⟩
  · exact (recordText_after cluster).imp_left Eq.symm
  · refine unsettled_after (fun same => ?_) unsettled
    exact Nat.ne_of_lt (generation_after.2 _ same List.mem_cons_self) stood

/-- Every call but the one that keeps a connection leaves the cache as guarded as it was. -/
theorem guarded_after (notKept : ∀ key g d, c ≠ .keep key g d) (h : Guarded s) : Guarded (s.after i c r) := by
  intro key d member
  obtain ⟨before, uncovered⟩ := entries_after notKept member
  have other : c ≠ .evict (.cluster key.cluster) := by
    intro same
    have := uncovered _ same
    simp [Eviction.covers] at this
  rcases h key d before with current | unsettled
  · rcases recordText_after (i := i) (r := r) key.cluster with same | unsettled
    · exact .inl (by rw [Current, same]; exact current)
    · exact .inr unsettled
  · exact .inr (unsettled_after other unsettled)

/-- A connection may be kept if it was current when the generation it is kept at was read. -/
theorem guarded_after_keep {key : ConnectionKey} {g : Nat} {d : Connection} {r : ConnectionCache.Placement}
    (h : Guarded s) (fresh : s.generation key.cluster = g → Current s key d ∨ Unsettled s key.cluster) :
    Guarded (s.after i (.keep key g d) r) := by
  intro key' d' member
  have still : ∀ {k c}, Current s k c ∨ Unsettled s k.cluster →
      Current (s.after i (.keep key g d) r) k c ∨ Unsettled (s.after i (.keep key g d) r) k.cluster :=
    fun h => h.imp id (unsettled_after nofun)
  rcases entries_after_keep member with old | ⟨stands, new⟩
  · exact still (h key' d' old)
  · obtain ⟨rfl, rfl⟩ := Prod.mk.inj new
    exact still (fresh stands)

end Steps

/-! ## What `get` knows between its calls -/

/-- As long as the generation is `g`, `P` holds of the record, or its cluster is unsettled. -/
structure Held (cluster : String) (g : Nat) (P : Option String → Prop) (s : Surroundings) : Prop where
  reached : g ≤ s.generation cluster
  holds : s.generation cluster = g → P (s.recordText cluster) ∨ Unsettled s cluster

theorem Held.onward {cluster : String} {g : Nat} {P : Option String → Prop} {s t : Surroundings}
    (h : Held cluster g P s) (moved : Onward s t) : Held cluster g P t := by
  have raised := moved.raised cluster
  refine ⟨Nat.le_trans h.reached raised, fun stands => ?_⟩
  have reached := h.reached
  have stood : s.generation cluster = t.generation cluster := by omega
  rcases h.holds (by omega) with holds | unsettled
  · rcases moved.same cluster stood with same | unsettled
    · exact .inl (same ▸ holds)
    · exact .inr unsettled
  · exact .inr (moved.unsettled cluster stood unsettled)

/-! ## Programs among others -/

section Guarding
variable {α : Type} {i : Nat} {s : Surroundings}

/-- For a program that keeps the cache guarded while others do. -/
abbrev guarding (i : Nat) : Program.Demands Surroundings := Pool.amid (fun _ => True) Guarded (fun _ => Onward) i

theorem guarding_step {c : Call} {K : c.Answer → Surroundings → Prop} (notKept : !c.keeps)
    (h : ∀ t r, t.Allows c r → Onward s t → Onward s (t.after i c r) → K r (t.after i c r)) : guarding i c K s := by
  intro t guarded moved r allowed _
  have later := Onward.trans _ _ _ moved (onward_after (i := i) (r := r))
  refine ⟨guarded_after (fun key g d same => ?_) guarded, fun _ _ => onward_after, h t r allowed moved later⟩
  subst same
  cases notKept

/-- A program that does not cache connections itself keeps the cache guarded. -/
theorem wp_guarding_of_only {p : Program α} (h : Program.Only (!·.keeps) p) :
    Program.wp (guarding i) (fun _ _ => True) p s := by
  refine Program.wp_of_only (D := guarding i) (I := fun _ => True) (fun c K s notKept _ next => ?_) h trivial
  exact guarding_step notKept fun _ r _ _ _ => next r _ trivial

theorem wp_guarding_of_works {p : Program α} (h : Program.Only (·.works) p) :
    Program.wp (guarding i) (fun _ _ => True) p s :=
  wp_guarding_of_only (Program.only_mono Call.not_keeps_of_works h)

end Guarding

end Surroundings

namespace Connections

open Surroundings

variable {i : Nat} {s : Surroundings}

/-- What is loaded holds as long as the generation stands that was read before. -/
theorem wp_guarding_loadCluster {cluster : String} {g : Nat} (start : Held cluster g (fun _ => True) s) :
    Op.wp (guarding i) (fun record? t => ∀ record, record? = some record →
      Held cluster g (fun text? => ∃ text, text? = some text ∧ ClusterRecord.decode text = .ok record) t)
      (fun _ _ => True) (loadCluster cluster) s := by
  refine (Op.wp_bind_ofStore ..).2 ?_
  refine guarding_step rfl fun t r given _ moved => ?_
  have later := start.onward moved
  cases r with
  | error e => trivial
  | ok text? =>
    cases text? with
    | none => exact nofun
    | some text =>
      have stored : t.recordText cluster = some text := (eq_of_gives given).symm
      dsimp only [Program.wp, Except.mapError, Op.Ended]
      split
      · rename_i record decoded
        rintro _ ⟨⟩
        exact ⟨later.reached, fun _ => .inl ⟨text, stored, decoded⟩⟩
      · trivial

/-- A connection that was opened from what was loaded fits as long as the generation stands. -/
theorem wp_guarding_openUncached {key : ConnectionKey} {g : Nat} {record : ClusterRecord}
    (loaded : Held key.cluster g (fun text? => ∃ text, text? = some text ∧ ClusterRecord.decode text = .ok record) s) :
    Op.wp (guarding i) (fun c t => Held key.cluster g (Fits key c) t) (fun _ _ => True)
      (openUncached record key.kind (key.database.getD record.database)) s := by
  refine (Op.wp_bind_ofSql ..).2 ?_
  refine guarding_step rfl fun t opened allowed _ moved => ?_
  cases opened with
  | error e => trivial
  | ok c =>
    obtain ⟨leads, -⟩ := allowed c rfl
    refine (Op.wp_bind_lift ..).2 (guarding_step rfl fun u _ _ _ tallied => ?_)
    have later := (loaded.onward moved).onward tallied
    refine ⟨later.reached, fun stands => (later.holds stands).imp_left ?_⟩
    rintro ⟨text, stored, decoded⟩
    exact ⟨text, record, stored, decoded, leads⟩

theorem wp_guarding_getWithin (key : ConnectionKey) (more : Nat) :
    Op.wp (guarding i) (fun _ _ => True) (fun _ _ => True) (getWithin key more) s := by
  refine wp_getWithin (fun _ _ => True) (fun _ g => Held key.cluster g fun _ => True)
    (fun _ g c => Held key.cluster g (Fits key c)) (fun _ _ => trivial)
    (fun _ s _ => guarding_step rfl fun t found looked _ _ => ?_) (fun _ g s start => ?_)
    (fun _ g c s fits w guarded moved placed _ _ => ?_) more trivial
  · cases found with
    | cached c => trivial
    | missing g => exact ⟨Nat.le_of_eq (generation_of_missing looked).symm, fun _ => .inl trivial⟩
  · exact Op.wp_found (wp_guarding_loadCluster start) (fun _ _ => trivial)
      (fun record _ loaded => wp_guarding_openUncached (loaded record rfl)) fun _ _ => id
  · -- The only call that caches a connection: what was held since the look-up makes it safe.
    refine ⟨guarded_after_keep guarded (fits.onward moved).holds, fun _ _ => onward_after, ?_⟩
    cases placed with
    | kept => trivial
    | present _ | superseded => exact wp_guarding_of_works only_closeQuietly

/-! ## Within a settled stretch -/

/-- A record that stays as it is while its cluster is settled. -/
structure Settled (cluster : String) (text? : Option String) (s : Surroundings) : Prop where
  guarded : s.Guarded
  settled : ¬s.Unsettled cluster
  stored : s.recordText cluster = text?

theorem Settled.fits {key : ConnectionKey} {text? : Option String} {c : Connection} (h : Settled key.cluster text? s)
    (cached : s.broker.cache.get? key = some c) : Fits key c text? := by
  rcases h.guarded key c (ConnectionCache.mem_of_get? cached) with current | unsettled
  · exact h.stored ▸ current
  · exact absurd unsettled h.settled

/-- For a program that is looked at within a stretch of a run. -/
abbrev within (P : Surroundings → Prop) (i : Nat) : Program.Demands Surroundings :=
  Pool.amid P P (fun _ _ _ => True) i

theorem wp_within {α : Type} {P : Surroundings → Prop} (p : Program α) :
    Program.wp (within P i) (fun _ _ => True) p s := by
  induction p generalizing s with
  | done a => trivial
  | call c next ih => exact fun t _ _ r _ stays => ⟨stays, fun _ _ => trivial, ih r⟩

/-- A connection that is got within a settled stretch leads where the record of the cluster says. -/
theorem wp_within_getWithin (key : ConnectionKey) (text? : Option String) (more : Nat) :
    Op.wp (within (Settled key.cluster text?) i) (fun c _ => Fits key c text?) (fun _ _ => True)
      (getWithin key more) s := by
  refine wp_getWithin (fun _ _ => True) (fun _ _ _ => True) (fun _ _ c _ => Fits key c text?) (fun _ _ => trivial)
    ?_ (fun _ _ s _ => ?_) ?_ more trivial
  · intro _ _ _ t inside _ found looked stays
    refine ⟨stays, fun _ _ => trivial, ?_⟩
    replace looked : found = t.broker.cache.find key := looked
    cases found with
    | cached c => exact inside.fits (ConnectionCache.get?_of_cached looked.symm)
    | missing g => trivial
  · have loading : Op.wp (within (Settled key.cluster text?) i) (fun record? _ => ∀ record, record? = some record →
        ∃ text, text? = some text ∧ ClusterRecord.decode text = .ok record) (fun _ _ => True) (loadCluster key.cluster) s := by
      refine (Op.wp_bind_ofStore ..).2 fun t inside _ fetched given stays => ⟨stays, fun _ _ => trivial, ?_⟩
      cases fetched with
      | error e => trivial
      | ok fetched =>
        obtain rfl : fetched = text? := (eq_of_gives given).trans inside.stored
        cases fetched with
        | none => exact nofun
        | some text =>
          dsimp only [Program.wp, Except.mapError, Op.Ended]
          split
          · rename_i record decoded
            rintro _ ⟨⟩
            exact ⟨text, rfl, decoded⟩
          · trivial
    refine Op.wp_found loading (fun _ _ => trivial) (fun record t loaded => ?_) fun _ _ => id
    obtain ⟨text, stored, decoded⟩ := loaded record rfl
    refine (Op.wp_bind_ofSql ..).2 fun t _ _ opened allowed stays => ⟨stays, fun _ _ => trivial, ?_⟩
    cases opened with
    | error e => trivial
    | ok c =>
      have fits : Fits key c text? := ⟨text, record, stored, decoded, (allowed c rfl).1⟩
      exact (Op.wp_bind_lift ..).2 fun _ _ _ _ _ stays => ⟨stays, fun _ _ => trivial, fits⟩
  · intro _ g c _ fits t inside _ placed put stays
    refine ⟨stays, fun _ _ => trivial, ?_⟩
    replace put : placed = (t.broker.keep key g c).1 := put
    rw [BrokerState.placement_keep] at put
    cases placed with
    | kept => exact fits
    | present existing =>
      have cached : Fits key existing text? := inside.fits (ConnectionCache.get?_of_present put.symm)
      exact Program.wp_mono (fun _ _ _ => cached) (wp_within _)
    | superseded => exact wp_within _

/-- Only who writes leaves a cluster unsettled. -/
theorem settled_after {c : Call} {r : c.Answer} (notWritten : !c.writes) (settled : ∀ cluster, ¬s.Unsettled cluster)
    (cluster : String) : ¬(s.after i c r).Unsettled cluster := by
  rintro ⟨asker, ⟨-, left⟩ | ⟨-, changed⟩⟩
  · cases c <;> first | cases left | cases notWritten
  · exact settled cluster ⟨asker, changed⟩

/-- A program that does not write leaves the records as they are, and no cluster unsettled that was not. -/
theorem wp_settled {α : Type} {p : Program α} (h : Program.Only (!·.writes) p) (settled : ∀ cluster, ¬s.Unsettled cluster) :
    Program.wp (alone i) (fun _ t => t.values = s.values ∧ ∀ cluster, ¬t.Unsettled cluster) p s := by
  refine Program.wp_of_only (D := alone i) (I := fun t => t.values = s.values ∧ ∀ cluster, ¬t.Unsettled cluster)
    (fun c K t notWritten before next => alone_iff.2 fun r _ => next r _ ?_) h ⟨rfl, settled⟩
  exact ⟨(values_after notWritten).trans before.1, settled_after notWritten before.2⟩

/-- Where a cluster is registered a connection can be got, and it is cached then. -/
theorem wp_lucky_get (key : ConnectionKey) {record : ClusterRecord}
    (loads : Loads ClusterRecord.decode s.values (StoreKeys.cluster key.cluster) (some record)) :
    Op.wp (lucky i) (fun c t => (key, c) ∈ t.broker.cache.entries) (fun _ _ => False) (get key) s := by
  obtain ⟨text, stored, decoded⟩ := loads
  refine (Op.wp_bind_lift ..).2 (lucky_iff.2 ⟨s.broker.cache.find key, rfl, ?_⟩)
  cases found : s.broker.cache.find key with
  | cached c => exact ConnectionCache.mem_of_get? (ConnectionCache.get?_of_cached found)
  | missing g =>
    refine (Op.wp_bind ..).2 ((Op.wp_bind_ofStore ..).2 ?_)
    refine lucky_iff.2 ⟨.ok (some text), allows_fetch stored, ?_⟩
    dsimp only [Program.wp, Except.mapError, Op.Ended]
    rw [decoded]
    obtain ⟨n, unused⟩ := exists_unused Connection.serial s.opened
    let c : Connection := ⟨n, record.target key.kind (key.database.getD record.database)⟩
    refine (Op.wp_bind ..).2 ((Op.wp_bind_ofSql ..).2 (lucky_iff.2 ⟨.ok c, ?_, ?_⟩))
    · rintro _ ⟨⟩
      exact ⟨rfl, unused⟩
    refine (Op.wp_bind_lift ..).2 (lucky_iff.2 ⟨(), trivial, ?_⟩)
    have kept := ConnectionCache.keep_of_missing found c
    refine (Op.wp_bind_lift ..).2 (lucky_iff.2 ⟨.kept, ?_, ?_⟩)
    · refine Eq.trans ?_ (BrokerState.placement_keep ..).symm
      exact (congrArg Prod.fst kept).symm
    · refine (congrArg (fun cache => (key, c) ∈ cache.entries) (BrokerState.cache_keep ..)).mpr ?_
      refine (congrArg (fun placed => (key, c) ∈ placed.2.entries) kept).mpr ?_
      exact List.mem_append_right _ (List.mem_singleton_self _)

end Connections

/-! ## Tasks -/

/-- What a task may do: get a connection, invalidate connections, or write the record of a cluster and invalidate
    the cluster when that has been done. -/
inductive CacheTask where
  | get (key : ConnectionKey)
  | invalidate (what : Eviction)
  | replace (cluster text : String)
  | remove (cluster : String)
  | register (cluster : String) (request : ClusterRequest)
  | delete (cluster : String)
  | purge (cluster : String)

namespace CacheTask

/-- Invalidates a cluster once its record was written. -/
def writing (cluster : String) (write : Program (Except StoreError Unit)) : Program Unit := do
  match ← write with
  | .ok () =>
    let _ ← Connections.invalidate (.cluster cluster)
    return ()
  | .error _ => return ()

/-- The calls of a task, and the connection that it gets, if it does. -/
def program : CacheTask → Program (Option Connection)
  | get key => do return (← (Connections.get key).run).toOption
  | invalidate what => do
    let _ ← Connections.invalidate what
    return none
  | replace cluster text => do
    writing cluster (Program.put (StoreKeys.cluster cluster) text)
    return none
  | remove cluster => do
    writing cluster (Program.delete (StoreKeys.cluster cluster))
    return none
  | register cluster request => do
    let _ ← (Fleet.registerCluster cluster request).run
    return none
  | delete cluster => do
    let _ ← (Fleet.deleteCluster cluster).run
    return none
  | purge cluster => do
    let _ ← (Reclaim.purgeCluster cluster).run
    return none

theorem only_writing {cluster : String} {write : Program (Except StoreError Unit)}
    (h : Program.Only (!·.keeps) write) : Program.Only (!·.keeps) (writing cluster write) := by
  refine Program.only_bind h fun written => ?_
  cases written with
  | error e => exact Program.only_pure _
  | ok u =>
    refine Program.only_bind (Program.only_mono Call.not_keeps_of_works Connections.only_invalidate) fun _ => ?_
    exact Program.only_pure _

section
open Op

theorem working {α : Type} {p : Op α} (h : Op.Only (·.works) p) : Op.Only (!·.keeps) p :=
  Op.only_mono Call.not_keeps_of_works h

theorem reading {α : Type} {p : Op α} (h : Op.Only (·.quiet) p) : Op.Only (!·.keeps) p :=
  Op.only_mono Call.not_keeps_of_quiet h

theorem only_registerCluster {name : String} {request : ClusterRequest} :
    Op.Only (!·.keeps) (Fleet.registerCluster name request) := by
  refine only_bind (only_ofRefusal _) fun _ => only_bind (reading only_loadRecord) fun record? => ?_
  split
  all_goals
    try refine only_unless ?_
    refine only_bind (only_ofRefusal _) fun record => only_bind (working Connections.only_openUncached) fun c => ?_
    refine only_bind (working (only_andAlways Fleet.only_provisionCluster Connections.only_closeQuietly)) fun _ => ?_
    refine only_bind (only_ofStore (Program.only_call rfl)) fun _ => ?_
    refine only_bind (working (only_lift Connections.only_invalidate)) fun closed => ?_
    cases closed <;> exact only_pure _

theorem only_deleteCluster {name : String} : Op.Only (!·.keeps) (Fleet.deleteCluster name) := by
  refine only_bind (reading Fleet.only_readCluster) fun c => ?_
  exact only_bind (only_ofStore (Program.only_call rfl)) fun _ => working Fleet.only_flushed

theorem only_purgeCluster {name : String} : Op.Only (!·.keeps) (Reclaim.purgeCluster name) := by
  refine only_bind (reading Reclaim.only_readCluster) fun c => ?_
  exact only_bind (only_ofStore (Program.only_call rfl)) fun _ => working Fleet.only_flushed

end

/-- Only who gets a connection puts one into the cache. -/
theorem only_of_not_get {task : CacheTask} (h : ∀ key, task ≠ get key) : Program.Only (!·.keeps) task.program := by
  have ending {α : Type} {p : Program α} (first : Program.Only (!·.keeps) p) :
      Program.Only (!·.keeps) (p >>= fun _ => pure (none : Option Connection)) :=
    Program.only_bind first fun _ => Program.only_pure _
  cases task with
  | get key => exact absurd rfl (h key)
  | invalidate what => exact ending (Program.only_mono Call.not_keeps_of_works Connections.only_invalidate)
  | replace cluster text => exact ending (only_writing (Program.only_call rfl))
  | remove cluster => exact ending (only_writing (Program.only_call rfl))
  | register cluster request => exact ending only_registerCluster
  | delete cluster => exact ending only_deleteCluster
  | purge cluster => exact ending only_purgeCluster

/-- Every task keeps the cache guarded, whatever the others do. -/
theorem wp_guarding (task : CacheTask) (i : Nat) (s : Surroundings) :
    Program.wp (Surroundings.guarding i) (fun _ _ => True) task.program s := by
  by_cases gets : ∃ key, task = get key
  · obtain ⟨key, rfl⟩ := gets
    have got := Connections.wp_guarding_getWithin (i := i) (s := s) key Connections.attempts
    exact Program.wp_seq got fun _ _ _ => trivial
  · exact Surroundings.wp_guarding_of_only (only_of_not_get fun key same => gets ⟨key, same⟩)

/-- Tasks that begin with a store of any values, and with nothing cached. -/
def pool (values : Table String) (tasks : Nat → CacheTask) : Pool (Option Connection) where
  shared := { Surroundings.blank with values }
  tasks i := (tasks i).program

theorem guarded_of_reaches {values : Table String} {tasks : Nat → CacheTask} {p : Pool (Option Connection)}
    (run : Pool.Reaches (pool values tasks) p) : p.shared.Guarded := by
  have start : (pool values tasks).shared.Guarded := nofun
  refine (run.within.safe (Q := fun _ _ _ => True) (fun _ => Surroundings.Onward.refl)
    (fun _ => Surroundings.Onward.trans) (fun _ _ _ _ _ h => h) start ?_).1
  exact fun i => wp_guarding (tasks i) i _

/-- Where no change of a record is left uninvalidated, the record stays as it is. -/
theorem stays_settled {values : Table String} {tasks : Nat → CacheTask} {p q : Pool (Option Connection)}
    {cluster : String} (before : Pool.Reaches (pool values tasks) p)
    (run : Pool.ReachesWithin (fun s => ¬s.Unsettled cluster) p q) :
    Pool.ReachesWithin (Connections.Settled cluster (p.shared.recordText cluster)) p q := by
  induction run with
  | refl => exact .refl
  | @tail u v past step ih =>
    obtain ⟨step, settled⟩ := step
    have earlier := Pool.ReachesWithin.reaches (P := fun s => ¬s.Unsettled cluster) past
    have guarded : v.shared.Guarded := guarded_of_reaches ((before.trans earlier).tail step)
    refine ih.tail ⟨step, guarded, settled, ?_⟩
    have stored : u.shared.recordText cluster = p.shared.recordText cluster := by
      rcases Relation.ReflTransGen.cases_tail ih with same | ⟨w, -, -, within⟩
      · rw [same]
      · exact within.stored
    obtain @⟨i, c, next, r, turn, allowed⟩ := step
    rcases Surroundings.recordText_after (s := u.shared) (i := i) (r := r) cluster with same | unsettled
    · exact same.trans stored
    · exact absurd unsettled settled

/-- However tasks take turns, a cached connection leads where the stored record of its cluster says, unless some
    task has changed that record and not yet invalidated the cluster. In particular no connection is out of date
    where no cluster is between the two, and a connection that is got while its cluster is in no such state leads
    where the record says that is stored then. -/
theorem cached_connections_current (values : Table String) (tasks : Nat → CacheTask) (p : Pool (Option Connection))
    (run : Pool.Reaches (pool values tasks) p) :
    (∀ key c, (key, c) ∈ p.shared.broker.cache.entries →
      p.shared.Current key c ∨ p.shared.Unsettled key.cluster) ∧
    ((∀ cluster, ¬p.shared.Unsettled cluster) →
      ∀ key c, (key, c) ∈ p.shared.broker.cache.entries → p.shared.Current key c) ∧
    ∀ i key c q, p.tasks i = (get key).program → ¬p.shared.Unsettled key.cluster →
      Pool.ReachesWithin (fun s => ¬s.Unsettled key.cluster) p q → q.tasks i = .done (some c) →
      q.shared.Current key c := by
  have guarded := guarded_of_reaches run
  refine ⟨guarded, fun settled key c cached => (guarded key c cached).resolve_right (settled _), ?_⟩
  intro i key c q begins settled within ends
  let text? := p.shared.recordText key.cluster
  have got := Connections.wp_within_getWithin (i := i) (s := p.shared) key text? Connections.attempts
  have own : Program.wp (Connections.within (Connections.Settled key.cluster text?) i)
      (fun c? _ => ∀ c, c? = some c → Surroundings.Fits key c text?) (p.tasks i) p.shared := by
    rw [begins]
    refine (Program.wp_bind ..).2 (Program.wp_mono (fun r t ended => ?_) got)
    cases r with
    | error e => exact nofun
    | ok c =>
      rintro _ ⟨⟩
      exact ended
  obtain ⟨later, result⟩ := (stays_settled run within).safe_own (fun _ _ => trivial) (fun _ _ _ _ _ _ => trivial)
    (fun _ _ _ _ h => h) ⟨guarded, settled, rfl⟩ own fun _ => Connections.wp_within _
  rw [ends] at result
  have fits := result c rfl
  rwa [← later.stored] at fits

open ClusterRecord (exampleRecord)

def exampleValues : Table String := Table.empty.insert (StoreKeys.cluster "main") exampleRecord.encode

/-- Where a cluster is registered, a task can get a connection, and caches it. -/
theorem runs_get {i : Nat} {s : Surroundings} {key : ConnectionKey} {record : ClusterRecord}
    (loads : Loads ClusterRecord.decode s.values (StoreKeys.cluster key.cluster) (some record))
    (settled : ∀ cluster, ¬s.Unsettled cluster) :
    ∃ a t c, Surroundings.Runs i (get key).program s a t ∧ (key, c) ∈ t.broker.cache.entries ∧ t.values = s.values ∧
      ∀ cluster, ¬t.Unsettled cluster := by
  have got := Surroundings.wp_lucky_and (Connections.wp_lucky_get (i := i) key loads)
    (Connections.wp_settled (Connections.only_getWithin Connections.attempts) settled)
  have gets : Program.wp (Surroundings.lucky i)
      (fun _ t => (∃ c, (key, c) ∈ t.broker.cache.entries) ∧ t.values = s.values ∧ ∀ cluster, ¬t.Unsettled cluster)
      (get key).program s := by
    refine (Program.wp_bind ..).2 (Program.wp_mono (fun r t ended => ?_) got)
    cases r with
    | error e => exact ended.1.elim
    | ok c => exact ⟨⟨c, ended.1⟩, ended.2⟩
  obtain ⟨a, t, run, ⟨c, cached⟩, same, settled⟩ := Program.wp_angelic_iff.1 gets
  exact ⟨a, t, c, run, cached, same, settled⟩

/-- Whoever wrote the record of a cluster and invalidates the cluster then leaves nothing unsettled that was not. -/
theorem settled_of_flushed {i : Nat} {s : Surroundings} (cluster text : String) (written : Except StoreError Unit)
    (evicted : (Call.evict (.cluster cluster)).Answer) (settled : ∀ other, ¬s.Unsettled other) (other : String) :
    ¬((s.after i (.put (StoreKeys.cluster cluster) text) written).after i (.evict (.cluster cluster)) evicted).Unsettled
      other := by
  rintro ⟨asker, ⟨-, left⟩ | ⟨apart, ⟨own, left⟩ | ⟨-, changed⟩⟩⟩
  · cases left
  · cases written with
    | error e => cases left
    | ok u =>
      by_cases same : cluster = other
      · subst same
        exact apart ⟨own, rfl⟩
      · have elsewhere : ¬StoreKeys.cluster cluster = StoreKeys.cluster other :=
          fun equal => same (StoreKeys.cluster_injective equal)
        simp [Event.left?, elsewhere] at left
  · exact settled other ⟨asker, changed⟩

/-- A record can be replaced, and when its cluster was invalidated nothing is unsettled that was not. -/
theorem runs_replace {i : Nat} {s : Surroundings} (cluster text : String) (settled : ∀ other, ¬s.Unsettled other) :
    ∃ t, Surroundings.Runs i (replace cluster text).program s none t ∧ t.recordText cluster = some text ∧
      ∀ other, ¬t.Unsettled other := by
  have flushes : Program.wp (Surroundings.alone i)
      (fun _ t => t.recordText cluster = some text ∧ ∀ other, ¬t.Unsettled other)
      (Connections.invalidate (.cluster cluster)) (s.after i (.put (StoreKeys.cluster cluster) text) (.ok ())) := by
    refine (Program.wp_bind ..).2 (Surroundings.alone_iff.2 fun evicted _ => ?_)
    have closes := Connections.wp_settled (i := i)
      (Program.only_mono Call.not_writes_of_works (Connections.only_closeAll evicted))
      (settled_of_flushed (i := i) cluster text (.ok ()) evicted settled)
    refine (Program.wp_bind ..).2 (Program.wp_mono (fun failures t ended => ?_) closes)
    obtain ⟨same, settled⟩ := ended
    have stored : t.recordText cluster = some text := by
      rw [Surroundings.recordText, same]
      exact Table.get?_insert_self ..
    cases failures <;> exact ⟨stored, settled⟩
  have writes : Program.wp (Surroundings.lucky i)
      (fun _ t => t.recordText cluster = some text ∧ ∀ other, ¬t.Unsettled other)
      (writing cluster (Program.put (StoreKeys.cluster cluster) text)) s := by
    refine (Program.wp_bind ..).2 (Surroundings.lucky_iff.2 ⟨.ok (), trivial, ?_⟩)
    exact (Program.wp_bind ..).2 (Program.wp_mono (fun _ _ flushed => flushed) (Surroundings.wp_lucky_of_alone flushes))
  have replaces : Program.wp (Surroundings.lucky i)
      (fun a t => a = none ∧ t.recordText cluster = some text ∧ ∀ other, ¬t.Unsettled other)
      (replace cluster text).program s :=
    (Program.wp_bind ..).2 (Program.wp_mono (fun _ _ written => ⟨rfl, written⟩) writes)
  obtain ⟨_, t, run, rfl, stored, settled⟩ := Program.wp_angelic_iff.1 replaces
  exact ⟨t, run, stored, settled⟩

def rotatedRecord : ClusterRecord := { exampleRecord with managementPassword := "third" }

def mainKey : ConnectionKey := ⟨.management, "main", none⟩

/-- Caller 1 replaces the record of the cluster, all others get a connection to it. -/
def rotatingTasks : Nat → CacheTask
  | 1 => replace "main" rotatedRecord.encode
  | _ => get mainKey

/-- A connection is cached and current. When the record was replaced another one is in its place, which is current then
    as the first one is no more. -/
theorem cached_connection_current_once_opened : ∃ p q c c',
    Pool.Reaches (pool exampleValues rotatingTasks) p ∧ (mainKey, c) ∈ p.shared.broker.cache.entries ∧
      p.shared.Current mainKey c ∧ Pool.Reaches p q ∧ q.tasks 1 = .done none ∧
      q.shared.recordText "main" = some rotatedRecord.encode ∧ (mainKey, c') ∈ q.shared.broker.cache.entries ∧
      q.shared.Current mainKey c' ∧ ¬q.shared.Current mainKey c := by
  have loads : Loads ClusterRecord.decode (pool exampleValues rotatingTasks).shared.values (StoreKeys.cluster mainKey.cluster)
      (some exampleRecord) := ⟨_, Table.get?_insert_self .., ClusterRecord.decode_encode _⟩
  obtain ⟨_, t, c, run, cached, same, settled⟩ := runs_get (i := 0) loads nofun
  obtain ⟨p, reached, rfl, -, others⟩ := Pool.reaches_of_runs (p := pool exampleValues rotatingTasks) run
  have current : p.shared.Current mainKey c := (cached_connections_current _ _ p reached).2.1 settled _ _ cached
  obtain ⟨u, run', stored', settled'⟩ := runs_replace (i := 1) "main" rotatedRecord.encode settled
  have waits : p.tasks 1 = (replace "main" rotatedRecord.encode).program := others 1 (by decide)
  rw [← waits] at run'
  obtain ⟨v, reached', rfl, done, others'⟩ := Pool.reaches_of_runs run'
  have loads' : Loads ClusterRecord.decode v.shared.values (StoreKeys.cluster mainKey.cluster) (some rotatedRecord) :=
    ⟨_, stored', ClusterRecord.decode_encode _⟩
  obtain ⟨_, w, c', run'', cached', same', settled''⟩ := runs_get (i := 2) loads' settled'
  have waits' : v.tasks 2 = (get mainKey).program := (others' 2 (by decide)).trans (others 2 (by decide))
  rw [← waits'] at run''
  obtain ⟨q, reached'', rfl, -, others''⟩ := Pool.reaches_of_runs run''
  have onward := reached'.trans reached''
  have current' : q.shared.Current mainKey c' :=
    (cached_connections_current _ _ q (reached.trans onward)).2.1 settled'' _ _ cached'
  have rotated : q.shared.recordText "main" = some rotatedRecord.encode := by
    rw [Surroundings.recordText, same']
    exact stored'
  refine ⟨p, q, c, c', reached, cached, current, onward, (others'' 1 (by decide)).trans done, rotated, cached', current', ?_⟩
  have registered : p.shared.recordText "main" = some exampleRecord.encode := by
    rw [Surroundings.recordText, same]
    exact Table.get?_insert_self ..
  -- The connection of before was opened with the password that is replaced.
  intro still
  have targets := (current.target_eq registered).symm.trans (still.target_eq rotated)
  exact absurd (congrArg Target.password targets) (by decide)

end CacheTask

end LeaseBroker
