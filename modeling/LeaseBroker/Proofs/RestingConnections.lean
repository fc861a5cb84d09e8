import LeaseBroker.Proofs.CurrentConnections
import LeaseBroker.Proofs.OperationFrames
import LeaseBroker.Proofs.RecordWriters
import LeaseBroker.Proofs.TransactionTraces

/-!
Connections between operations that run one after the other. With nobody else
around, the connections that are cached for a cluster lead where its stored
record says (`Resting`): who writes a record invalidates the cluster before the
next operation comes, and who writes one where none was finds no connections
there. A connection that is got then leads there too.
-/
namespace LeaseBroker

open Op
open Surroundings (alone Fits entries_after entries_after_keep values_after)

namespace Surroundings

/-- The connections that are cached for a cluster lead where its stored record says. -/
def Resting (cluster : String) (s : Surroundings) : Prop :=
  ∀ key c, (key, c) ∈ s.broker.cache.entries → key.cluster = cluster → s.Current key c

section
variable {cluster : String} {s t : Surroundings} {i : Nat} {c : Call} {r : c.Answer}

theorem recordText_of_unwritten (unwritten : (Event.mk i c r).left? (StoreKeys.cluster cluster) = none) :
    (s.after i c r).recordText cluster = s.recordText cluster := by
  rw [recordText, get?_after, unwritten]
  rfl

/-- No call but the caching of a connection and the writing of the record disturbs what is cached. -/
theorem Resting.after (h : Resting cluster s) (notKept : !c.keeps)
    (unwritten : (Event.mk i c r).left? (StoreKeys.cluster cluster) = none) : Resting cluster (s.after i c r) := by
  intro key d member own
  have notKeep (k : ConnectionKey) (g : Nat) (e : Connection) : c ≠ .keep k g e := by
    rintro rfl
    cases notKept
  have before := (entries_after notKeep member).1
  subst own
  rw [Current, recordText_of_unwritten unwritten]
  exact h key d before rfl

theorem Resting.after_keep {key : ConnectionKey} {g : Nat} {d : Connection} {r : ConnectionCache.Placement}
    (h : Resting cluster s) (fits : key.cluster = cluster → s.Current key d) :
    Resting cluster (s.after i (.keep key g d) r) := by
  intro key' d' member own
  rcases entries_after_keep member with old | ⟨-, new⟩
  · exact h key' d' old own
  · obtain ⟨rfl, rfl⟩ := Prod.mk.inj new
    exact fits own

/-- After the invalidation of a cluster nothing is cached for it. -/
theorem resting_after_evict (s : Surroundings) (i : Nat) (cluster : String) (r : List (ConnectionKey × Connection)) :
    Resting cluster (s.after i (.evict (.cluster cluster)) r) := by
  intro key d member own
  have uncovered := (entries_after (c := .evict (.cluster cluster)) nofun member).2 _ rfl
  subst own
  simp [Eviction.covers] at uncovered

theorem left?_of_not_writes (notWritten : !c.writes) (key : String) : (Event.mk i c r).left? key = none := by
  cases c <;> first | rfl | cases notWritten

end

/-- The store holds `values`, and what is cached for a cluster rests. -/
structure Calm (values : Table String) (cluster : String) (s : Surroundings) : Prop where
  holding : s.values = values
  resting : Resting cluster s

theorem Calm.after {values : Table String} {cluster : String} {s : Surroundings} {i : Nat} {c : Call} {r : c.Answer}
    (h : Calm values cluster s) (notKept : !c.keeps) (notWritten : !c.writes) : Calm values cluster (s.after i c r) :=
  ⟨(values_after notWritten).trans h.holding, h.resting.after notKept (left?_of_not_writes notWritten _)⟩

theorem Calm.after_keep {values : Table String} {cluster : String} {s : Surroundings} {i : Nat} {key : ConnectionKey}
    {g : Nat} {d : Connection} {r : ConnectionCache.Placement} (h : Calm values cluster s)
    (fits : key.cluster = cluster → Fits key d (values.get? (StoreKeys.cluster cluster))) :
    Calm values cluster (s.after i (.keep key g d) r) := by
  refine ⟨h.holding, h.resting.after_keep fun own => ?_⟩
  rw [Current, recordText, h.holding, own]
  exact fits own

theorem Calm.untouched {values : Table String} {cluster : String} {s t : Surroundings} (h : Calm values cluster s)
    (same : s.Untouched t) : Calm values cluster t := by
  refine ⟨same.values.trans h.holding, ?_⟩
  intro key d member own
  rw [same.broker] at member
  have current := h.resting key d member own
  rwa [Current, recordText, ← same.values] at current

end Surroundings

open Surroundings

variable {values : Table String} {cluster : String} {i : Nat} {s : Surroundings}

/-! ## Getting a connection -/

theorem labour_calm : Labour (alone i) (Calm values cluster) (fun _ => True) where
  call {c K s} works inside next := by
    refine Surroundings.alone_iff.2 fun r _ => next r _ ?_ fun _ _ => trivial
    exact inside.after (c.not_keeps_of_works works) (c.not_writes_of_works works)
  context _ := trivial

namespace Connections

/-- A connection that is got for the cluster leads where its record says. -/
theorem wp_calm_getWithin (key : ConnectionKey) (more : Nat) (calm : Calm values cluster s) :
    Op.wp (alone i)
      (fun c t => Calm values cluster t ∧
        (key.cluster = cluster → Fits key c (values.get? (StoreKeys.cluster cluster))))
      (fun _ => Calm values cluster) (getWithin key more) s := by
  have closing (c : Connection) {s : Surroundings} (calm : Calm values cluster s) :
      Program.wp (alone i) (fun _ => Calm values cluster) (closeQuietly c) s :=
    labour_calm.wp_of_only only_closeQuietly calm
  have cached_fits {t : Surroundings} (calm : Calm values cluster t) {c : Connection}
      (cached : t.broker.cache.get? key = some c) (own : key.cluster = cluster) :
      Fits key c (values.get? (StoreKeys.cluster cluster)) := by
    have current := calm.resting key c (ConnectionCache.mem_of_get? cached) own
    rwa [Current, recordText, calm.holding, own] at current
  refine wp_getWithin (fun _ => Calm values cluster) (fun _ _ => Calm values cluster)
    (fun _ _ c t => Calm values cluster t ∧ (key.cluster = cluster → Fits key c (values.get? (StoreKeys.cluster cluster))))
    (fun _ => id) (fun _ s calm => Surroundings.alone_iff.2 fun found looked => ?_) (fun _ g s calm => ?_) ?_ more calm
  · replace looked : found = s.broker.cache.find key := looked
    have later : Calm values cluster (s.after i (.find key) found) := calm.after rfl rfl
    cases found with
    | cached c => exact ⟨later, cached_fits calm (ConnectionCache.get?_of_cached looked.symm)⟩
    | missing g => exact later
  · refine Op.wp_found wp_loadRecord (fun _ missing => calm.untouched missing.1) (fun record t loaded => ?_)
      fun _ _ failed => calm.untouched failed.1
    obtain ⟨same, text, stored, decoded⟩ := loaded
    refine (Op.wp_bind_ofSql ..).2 (Surroundings.alone_iff.2 fun opened allowed => ?_)
    have connected := (calm.untouched same).after (i := i) (c := .connect _) (r := opened) rfl rfl
    cases opened with
    | error e => exact connected
    | ok c =>
      refine (Op.wp_bind_lift ..).2 (Surroundings.alone_iff.2 fun tallied _ => ⟨connected.after rfl rfl, ?_⟩)
      rintro rfl
      rw [← calm.holding]
      exact ⟨text, record, stored, decoded, (allowed c rfl).1⟩
  · rintro _ g c s ⟨calm, fits⟩
    refine Surroundings.alone_iff.2 fun placed put => ?_
    have later := calm.after_keep (i := i) (r := placed) (g := g) fits
    replace put : placed = (s.broker.keep key g c).1 := put
    rw [BrokerState.placement_keep] at put
    cases placed with
    | kept => exact ⟨later, fits⟩
    | present existing =>
      have cached := cached_fits calm (ConnectionCache.get?_of_present put.symm)
      exact Program.wp_mono (fun _ _ calm => ⟨calm, cached⟩) (closing c later)
    | superseded => exact closing c later

/-- So it leads where that record does, if it can be read. -/
theorem wp_calm_get {key : ConnectionKey} {r : ClusterRecord} (calm : Calm values cluster s) (own : key.cluster = cluster)
    (stored : Loads ClusterRecord.decode values (StoreKeys.cluster cluster) (some r)) :
    Op.wp (alone i)
      (fun c t => Calm values cluster t ∧ c.target = r.target key.kind (key.database.getD r.database))
      (fun _ => Calm values cluster) (get key) s := by
  refine wp_mono (wp_calm_getWithin key attempts calm) (fun c t got => ⟨got.1, ?_⟩) fun _ _ failed => failed
  obtain ⟨text, r', found, decoded, target⟩ := got.2 own
  obtain rfl := loads_unique stored ⟨text, found, decoded⟩
  exact target

/-- A transaction that is begun for a database of a cluster runs where the record of the cluster says. -/
theorem wp_calm_startManagement {name : String} {r : ClusterRecord} (calm : Calm values cluster s)
    (stored : Loads ClusterRecord.decode values (StoreKeys.cluster cluster) (some r)) :
    Op.wp (alone i) (fun t u => Calm values cluster u ∧ t.connection.target = r.target .management name)
      (fun _ => Calm values cluster) (startManagement cluster name) s := by
  refine wp_onManagement (Calm values cluster)
    (fun c t => Calm values cluster t ∧ c.target = r.target .management name) (fun _ calm => wp_calm_get calm rfl stored)
    (fun c t got => Surroundings.alone_iff.2 fun begun allowed => ?_) calm
  have later : Calm values cluster (t.after i (.start c) begun) := got.1.after rfl rfl
  cases begun with
  | ok tr => exact ⟨later, (congrArg Connection.target (allowed tr rfl).1).trans got.2⟩
  | error e => exact ⟨later, fun _ => later⟩

/-- A connection is got without anything being done, and leads where the record says if all that is cached does. -/
theorem wp_get_led {key : ConnectionKey} {r : ClusterRecord} (own : key.cluster = cluster)
    (stored : Loads ClusterRecord.decode s.values (StoreKeys.cluster cluster) (some r)) :
    Op.wp (alone i)
      (fun conn t => Done [] s t ∧
        (Resting cluster s → Resting cluster t ∧ conn.target = r.target key.kind (key.database.getD r.database)))
      (fun _ t => Done [] s t) (get key) s := by
  have harmless : Op.wp (alone i) (fun _ t => Done [] s t) (fun _ t => Done [] s t) (get key) s :=
    Op.wp_harmless (harmless_getWithin attempts)
  by_cases resting : Resting cluster s
  · have led := wp_both harmless (wp_calm_get ⟨rfl, resting⟩ own stored)
    exact wp_mono led (fun conn t got => ⟨got.1, fun _ => ⟨got.2.1.resting, got.2.2⟩⟩) fun _ _ failed => failed.1
  · exact wp_mono harmless (fun conn t got => ⟨got, fun rests => absurd rests resting⟩) fun _ _ failed => failed

/-- So is a transaction begun. -/
theorem wp_startManagement_led {name : String} {r : ClusterRecord}
    (stored : Loads ClusterRecord.decode s.values (StoreKeys.cluster cluster) (some r)) :
    Op.wp (alone i)
      (fun tr t => Done [.began tr] s t ∧ (Resting cluster s → tr.connection.target = r.target .management name))
      (fun _ t => Done [] s t) (startManagement cluster name) s := by
  have begun : Op.wp (alone i) (fun tr t => Done [.began tr] s t) (fun _ t => Done [] s t)
      (startManagement cluster name) s := wp_startManagement_begun
  by_cases resting : Resting cluster s
  · have led := wp_both begun (wp_calm_startManagement ⟨rfl, resting⟩ stored)
    exact wp_mono led (fun tr t got => ⟨got.1, fun _ => got.2.2⟩) fun _ _ failed => failed.1
  · exact wp_mono begun (fun tr t got => ⟨got, fun rests => absurd rests resting⟩) fun _ _ failed => failed

end Connections

/-! ## What operations keep -/

theorem keeps_get_resting (key : ConnectionKey) : Op.Keeps (alone i) (Resting cluster) (Connections.get key) := by
  intro s resting
  exact Op.wp_mono (Connections.wp_calm_getWithin key _ ⟨rfl, resting⟩) (fun _ _ got => got.1.resting)
    fun _ _ failed => ⟨failed.resting, trivial⟩

theorem routine_resting : Routine (alone i) (Resting cluster) where
  labour := {
    call := fun {c K s} works inside next => by
      refine Surroundings.alone_iff.2 fun r _ => next r _ ?_ fun _ _ => trivial
      exact inside.after (c.not_keeps_of_works works) (left?_of_not_writes (c.not_writes_of_works works) _)
    context := fun _ => trivial }
  quiet {c K s} quiet inside next := by
    refine Surroundings.alone_iff.2 fun r _ => next r _ ?_
    exact inside.after (c.not_keeps_of_quiet quiet) (left?_of_not_writes (c.not_writes_of_quiet quiet) _)
  get := keeps_get_resting

/-- What is stored changes by writing only. -/
theorem routine_values {P : Table String → Prop} : Routine (alone i) (fun s => P s.values) where
  labour := {
    call := fun {c K s} works inside next => by
      refine Surroundings.alone_iff.2 fun r _ => next r _ ?_ fun _ _ => trivial
      rwa [values_after (c.not_writes_of_works works)]
    context := fun _ => trivial }
  quiet {c K s} quiet inside next := by
    refine Surroundings.alone_iff.2 fun r _ => next r _ ?_
    rwa [values_after (c.not_writes_of_quiet quiet)]
  get key := by
    intro s inside
    refine Op.wp_mono (Op.wp_of_only (D := alone i) (I := fun s => P s.values) (fun c K s notWritten inside next => ?_)
      (Connections.only_getWithin Connections.attempts) inside) (fun _ _ later => later) fun _ _ later => ⟨later, trivial⟩
    refine Surroundings.alone_iff.2 fun r _ => next r _ ?_
    rwa [values_after notWritten]

theorem get?_after_spared {key : String} {c : Call} {r : c.Answer} (spares : c.Spares (· = key)) :
    (s.after i c r).values.get? key = s.values.get? key := by
  have still : Still (· = key) s.values s := fun _ _ => rfl
  exact still.after spares key rfl

theorem free_other {key other : String} {P : Option String → Prop} (different : other ≠ key) :
    Free (alone i) (fun s => P (s.values.get? key)) other where
  put value {_ _} inside next := by
    have spares : Call.Spares (· = key) (.put other value) := different
    refine Surroundings.alone_iff.2 fun r _ => next r _ ?_
    rwa [get?_after_spared spares]
  delete {_ _} inside next := by
    have spares : Call.Spares (· = key) (.delete other) := different
    refine Surroundings.alone_iff.2 fun r _ => next r _ ?_
    rwa [get?_after_spared spares]

theorem free_resting {key : String} (other : key ≠ StoreKeys.cluster cluster) :
    Free (alone i) (Resting cluster) key where
  put _ {_ _} inside next := by
    refine Surroundings.alone_iff.2 fun r _ => next r _ (inside.after rfl ?_)
    cases r with
    | ok u => exact if_neg other
    | error e => rfl
  delete {_ _} inside next := by
    refine Surroundings.alone_iff.2 fun r _ => next r _ (inside.after rfl ?_)
    cases r with
    | ok u => exact if_neg other
    | error e => rfl

/-- To invalidate a cluster puts all to rest that is cached for it. -/
theorem wp_invalidate_resting : Program.wp (alone i) (fun _ => Resting cluster) (Connections.invalidate (.cluster cluster)) s := by
  refine (Program.wp_bind ..).2 (Surroundings.alone_iff.2 fun evicted _ => ?_)
  have resting := resting_after_evict s i cluster evicted
  refine Program.wp_seq (routine_resting.labour.wp_of_only (Connections.only_closeAll evicted) resting)
    fun errors t later => ?_
  cases errors <;> exact later

theorem renewable_resting : Renewable (alone i) (Resting cluster) cluster where
  put value := by
    intro s resting
    refine (Op.wp_bind_ofStore ..).2 (Surroundings.alone_iff.2 fun stored _ => ?_)
    cases stored with
    | ok u => exact (Op.wp_lift _).2 wp_invalidate_resting
    | error e => exact ⟨resting.after rfl rfl, trivial⟩
  delete := by
    intro s resting
    refine (Op.wp_bind_ofStore ..).2 (Surroundings.alone_iff.2 fun erased _ => ?_)
    cases erased with
    | ok u => exact (Op.wp_lift _).2 wp_invalidate_resting
    | error e => exact ⟨resting.after rfl rfl, trivial⟩

namespace Replicas

/-- The record of an active cluster that can be cloned, and the port that the clone is to have. -/
structure Source (source : String) (request : CloneRequest) (values : Table String) (c : ClusterRecord) (port : UInt16) :
    Prop where
  loads : Loads ClusterRecord.decode values (StoreKeys.cluster source) (some c)
  active : c.disabled = false
  ported : validPort? request.port = some port

/-- A cluster is not cloned to its own place. -/
theorem Source.ne_target {source : String} {request : CloneRequest} {values : Table String} {c : ClusterRecord}
    {port : UInt16} (cloned : Source source request values c port)
    (vacant : values.get? (StoreKeys.cluster request.target) = none) : source ≠ request.target := by
  rintro rfl
  obtain ⟨text, found, -⟩ := cloned.loads
  cases vacant.symm.trans found

/-- A clone bears a name, may only take the place of no cluster, and is made of the record of an active one. -/
theorem wp_checkClone {source : String} {request : CloneRequest} :
    Op.wp (alone i)
      (fun record t => s.Untouched t ∧
        (Names.isName request.target ∧ s.values.get? (StoreKeys.cluster request.target) = none) ∧
        ∃ c port, Source source request s.values c port ∧ record = { c with host := request.host, port := port })
      (fun _ t => s.Untouched t) (checkClone source request) s := by
  unfold checkClone
  refine Op.wp_unless (.refl s) fun _ => ?_
  cases ported : validPort? request.port with
  | none => exact .refl s
  | some port =>
    refine Op.wp_found wp_loadRecord (fun _ missing => missing.1) (fun record t loaded => ?_) fun _ _ failed => failed.1
    obtain ⟨same, loads⟩ := loaded
    refine Op.wp_unless same fun active => Op.wp_unless same fun _ => Op.wp_checked (fun _ _ => same) fun _ valid => ?_
    refine Op.wp_seq wp_loadRecord (fun taken v loaded => ?_) fun _ _ failed => same.trans failed.1
    cases taken with
    | some c => exact same.trans loaded.1
    | none =>
      refine ⟨same.trans loaded.1, ⟨isName_of_check valid, same.values ▸ loaded.2⟩, record, port, ?_, ?_⟩
      · exact ⟨loads, active, ported⟩
      · exact congrArg (fun disabled => { record with host := request.host, port, disabled }) active.symm

/-- For a cluster that has just been cloned nothing is cached. -/
theorem keeps_cloneCluster_resting {source : String} {request : CloneRequest} :
    Op.Keeps (alone i) (Resting request.target) (cloneCluster source request) := by
  intro s resting
  refine Op.wp_seq wp_checkClone (fun record t checked => ?_) fun e t same => ?_
  case refine_2 => exact ⟨(Calm.untouched ⟨rfl, resting⟩ same).resting, trivial⟩
  obtain ⟨same, ⟨-, free⟩, -⟩ := checked
  have calm : Calm s.values request.target t := Calm.untouched ⟨rfl, resting⟩ same
  have working {α β : Type} {p : Op α} {f : α → Op β} (first : Op.Keeps (alone i) (Calm s.values request.target) p)
      (rest : ∀ a u, Calm s.values request.target u → Op.wp (alone i) (fun _ => Resting request.target)
        (fun _ u => Resting request.target u ∧ True) (f a) u) (u : Surroundings) (calm : Calm s.values request.target u) :
      Op.wp (alone i) (fun _ => Resting request.target) (fun _ u => Resting request.target u ∧ True) (p >>= f) u :=
    Op.wp_seq (first u calm) rest fun _ _ failed => ⟨failed.1.resting, trivial⟩
  refine working (works_tryManagement labour_calm) (fun warnings => ?_) t calm
  refine working (works_inContext labour_calm.toil (Connections.works_openUncached labour_calm)) fun root => ?_
  refine working (works_andAlways labour_calm (works_rotateBoth labour_calm.toil) Connections.only_closeQuietly) ?_
  intro passwords u calm
  refine (Op.wp_bind_inContext ..).2 ((Op.wp_ofStore _).2 (Surroundings.alone_iff.2 fun stored _ => ?_))
  cases stored with
  | error e => exact ⟨calm.resting.after rfl rfl, trivial⟩
  | ok _ =>
    have resting (v : String) :
        Resting request.target (u.after i (.put (StoreKeys.cluster request.target) v) (.ok ())) := by
      intro key d member own
      obtain ⟨text, record, stored, -⟩ := calm.resting key d member own
      rw [recordText, calm.holding, own, free] at stored
      cases stored
    have others (d : String) : StoreKeys.database request.target d ≠ StoreKeys.cluster request.target :=
      (StoreKeys.cluster_ne_own_database request.target d).symm
    refine (Op.wp_bind_lift ..).2 ?_
    exact routine_resting.habit.keeps_copyDatabases (fun d _ => keeps_put (free_resting (others d))) _ (resting _)

end Replicas

end LeaseBroker
