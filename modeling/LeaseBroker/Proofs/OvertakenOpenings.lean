import LeaseBroker.Proofs.ConnectionBalance

/-!
Connections that are being opened when their cluster is invalidated. Who opens
one has looked for it before, and offers it to the cache at the generation that
was found then. So it is refused if and only if an invalidation since the
look-up has raised the generation of the cluster (`Offered`): one that names
the cluster, or that takes a connection of the cluster out of the cache. To
clear the cache names no cluster. What is being opened for a cluster that has
no connection in the cache is not overtaken by it, and stays when everything
else is gone.
-/
namespace LeaseBroker

open Op
open Pool (Passed Elsewhere)

/-- The cluster that an invalidation is about. -/
def Eviction.named : Eviction → Option String
  | cluster c => some c
  | database c _ => some c
  | everything => none

/-- Whether an invalidation reaches what is being opened for a cluster: it names the cluster, or has taken one of its
    connections out. -/
def Event.Overtakes (cluster : String) : Event → Prop
  | ⟨_, .evict what, evicted⟩ => what.named = some cluster ∨ cluster ∈ List.map (·.1.cluster) evicted
  | _ => False

theorem Eviction.named_of_covers {what : Eviction} {key : ConnectionKey} (covers : what.covers key) :
    what = .everything ∨ what.named = some key.cluster := by
  cases what with
  | cluster c => exact .inr (congrArg some (eq_of_beq covers).symm)
  | database c d =>
    have covered : key.cluster = c ∧ key.database = some d := by simpa [Eviction.covers] using covers
    exact .inr (congrArg some covered.1.symm)
  | everything => exact .inl rfl

/-- What is covered is reached, unless everything was invalidated and its cluster had nothing to be taken out. -/
theorem Eviction.everything_of_not_overtakes {what : Eviction} {key : ConnectionKey} {j : Nat}
    {evicted : List (ConnectionKey × Connection)} (covers : what.covers key)
    (missed : ¬Event.Overtakes key.cluster ⟨j, .evict what, evicted⟩) :
    what = .everything ∧ ∀ e ∈ evicted, e.1.cluster ≠ key.cluster := by
  obtain ⟨unnamed, untaken⟩ := not_or.1 missed
  exact ⟨(named_of_covers covers).resolve_right unnamed, fun e member same => untaken (List.mem_map.2 ⟨e, member, same⟩)⟩

namespace Surroundings

variable {s t : Surroundings} {i : Nat} {c : Call} {r : c.Answer} {cluster : String}

/-! ## Generations -/

/-- An invalidation raises the generations of the clusters that it reaches. -/
theorem mem_raisedBy_iff {what : Eviction} {evicted : List (ConnectionKey × Connection)}
    (allowed : s.Allows (.evict what) evicted) :
    cluster ∈ s.broker.cache.raisedBy what ↔ Event.Overtakes cluster ⟨i, .evict what, evicted⟩ := by
  obtain rfl : evicted = s.broker.cache.entries.filter (what.covers ·.1) := allowed
  by_cases all : what = .everything
  · subst all
    simp [ConnectionCache.raisedBy, Event.Overtakes, Eviction.named, Eviction.covers]
  · have raised : cluster ∈ s.broker.cache.raisedBy what ↔ what.named = some cluster := by
      cases what <;> simp_all [ConnectionCache.raisedBy, Eviction.named, eq_comm]
    refine raised.trans ⟨.inl, ?_⟩
    rintro (named | taken)
    · exact named
    · obtain ⟨e, member, rfl⟩ := List.mem_map.1 taken
      exact (Eviction.named_of_covers (List.mem_filter.1 member).2).resolve_left all

/-- A generation stands until an invalidation reaches the cluster. -/
theorem generation_after_iff (allowed : s.Allows c r) :
    (s.after i c r).generation cluster = s.generation cluster ↔ ¬Event.Overtakes cluster ⟨i, c, r⟩ := by
  cases c with
  | evict what =>
    rw [generation_after_evict, ← mem_raisedBy_iff allowed, ← List.count_eq_zero]
    omega
  | _ => exact iff_of_true (generation_of_not_evict fun _ => nofun) id

end Surroundings

theorem Pool.Passed.generation {events : List Event} {s t : Surroundings} (h : Passed events s t) (cluster : String) :
    s.generation cluster ≤ t.generation cluster ∧
      (t.generation cluster = s.generation cluster ↔ ∀ e ∈ events, ¬e.Overtakes cluster) := by
  induction events generalizing s with
  | nil =>
    obtain ⟨-, rfl⟩ := h
    exact ⟨Nat.le_refl _, by simp [played]⟩
  | cons e rest ih =>
    obtain ⟨allowed, later⟩ := h.cons
    obtain ⟨raised, stood⟩ := ih later
    have raises : s.generation cluster ≤ (s.after e.asker e.call e.answer).generation cluster :=
      Surroundings.generation_after.1
    have stands : (s.after e.asker e.call e.answer).generation cluster = s.generation cluster ↔ ¬e.Overtakes cluster :=
      Surroundings.generation_after_iff allowed
    rw [List.forall_mem_cons, ← stood, ← stands]
    omega

/-! ## From the look-up to the cache -/

/-- How a caller that has looked for a connection opens one, the latest call first. -/
def opening (i : Nat) (key : ConnectionKey) (text : String) (conn : Connection) : List Event :=
  [⟨i, .tally .opened, ()⟩, ⟨i, .connect conn.target, .ok conn⟩,
    ⟨i, .fetch (StoreKeys.cluster key.cluster), .ok (some text)⟩]

/-- A connection that is offered to the cache was opened after a look-up, at the generation that was found by it, and is
    refused as superseded if and only if an invalidation has reached its cluster since. -/
def Offered (i : Nat) (key : ConnectionKey) (g : Nat) (conn : Connection) (placed : ConnectionCache.Placement)
    (before : List Event) : Prop :=
  ∃ since earlier text, before = since ++ ⟨i, .find key, .missing g⟩ :: earlier ∧
    since.filter (·.asker = i) = opening i key text conn ∧
    (placed = .superseded ↔ ∃ e ∈ since, e.Overtakes key.cluster)

theorem ConnectionCache.superseded_iff (cache : ConnectionCache) (key : ConnectionKey) (g : Nat) (conn : Connection) :
    (cache.keep key g conn).1 = .superseded ↔ cache.generation key.cluster ≠ g := by
  unfold keep
  split
  · exact iff_of_true rfl ‹_›
  · split <;> exact iff_of_false nofun ‹_›

namespace Surroundings

variable {s t : Surroundings} {i : Nat} {c : Call} {r : c.Answer} {key : ConnectionKey} {g : Nat}

/-- Caller `i` has looked for a connection at generation `g`, and has made the calls `own` since. -/
def Underway (i : Nat) (key : ConnectionKey) (g : Nat) (own : List Event) (s : Surroundings) : Prop :=
  ∃ since earlier, s.history = since ++ ⟨i, .find key, .missing g⟩ :: earlier ∧ since.filter (·.asker = i) = own ∧
    g ≤ s.generation key.cluster ∧ (s.generation key.cluster = g ↔ ∀ e ∈ since, ¬e.Overtakes key.cluster)

theorem underway_after (looked : s.Allows (.find key) (.missing g)) :
    Underway i key g [] (s.after i (.find key) (.missing g)) :=
  ⟨[], s.history, rfl, rfl, Nat.le_of_eq (generation_of_missing looked).symm,
    iff_of_true (generation_of_missing looked) (by simp)⟩

namespace Underway

variable {own : List Event}

theorem passed (h : Underway i key g own s) {events : List Event} (passed : Passed events s t) :
    Underway i key g (events.reverse.filter (·.asker = i) ++ own) t := by
  obtain ⟨since, earlier, history, rfl, reached, stands⟩ := h
  obtain ⟨raised, stood⟩ := passed.generation key.cluster
  refine ⟨events.reverse ++ since, earlier, ?_, List.filter_append .., Nat.le_trans reached raised, ?_⟩
  · rw [passed.history, history, List.append_assoc]
  · have both : t.generation key.cluster = g ↔
        t.generation key.cluster = s.generation key.cluster ∧ s.generation key.cluster = g := by omega
    rw [both, stood, stands, List.forall_mem_append]
    simp

theorem elsewhere (h : Underway i key g own s) (later : Elsewhere i s t) : Underway i key g own t := by
  obtain ⟨events, passed, others⟩ := later
  have none : events.reverse.filter (·.asker = i) = [] := by simpa [List.filter_eq_nil_iff] using others
  have underway := h.passed passed
  rwa [none] at underway

theorem after (h : Underway i key g own s) (allowed : s.Allows c r) :
    Underway i key g (⟨i, c, r⟩ :: own) (s.after i c r) := by
  have underway := h.passed (Passed.call (i := i) allowed)
  rwa [List.reverse_singleton, List.filter_cons_of_pos (by simp)] at underway

/-- What was opened meanwhile may be offered. -/
theorem offered {text : String} {conn : Connection} {placed : ConnectionCache.Placement}
    (h : Underway i key g (opening i key text conn) s) (allowed : s.Allows (.keep key g conn) placed) :
    Offered i key g conn placed s.history := by
  obtain ⟨since, earlier, history, own, -, stands⟩ := h
  obtain rfl : placed = (s.broker.keep key g conn).1 := allowed
  refine ⟨since, earlier, text, history, own, ?_⟩
  rw [BrokerState.placement_keep, ConnectionCache.superseded_iff]
  show ¬s.generation key.cluster = g ↔ _
  rw [stands]
  simp

end Underway

/-- Whatever was offered to the cache was opened by a task that gets it. -/
def Logged (tasks : Nat → CacheTask) (s : Surroundings) : Prop :=
  ∀ after before i key g conn placed, s.history = after ++ ⟨i, .keep key g conn, placed⟩ :: before →
    tasks i = .get key ∧ Offered i key g conn placed before

theorem Logged.after {tasks : Nat → CacheTask} (h : Logged tasks s)
    (new : ∀ key g conn placed, Event.mk i c r = ⟨i, .keep key g conn, placed⟩ →
      tasks i = .get key ∧ Offered i key g conn placed s.history) : Logged tasks (s.after i c r) := by
  intro after before j key g conn placed history
  cases after with
  | nil =>
    obtain ⟨same, rfl⟩ := List.cons.inj history
    obtain rfl : i = j := congrArg Event.asker same
    exact new key g conn placed same
  | cons latest after => exact h after before j key g conn placed (List.cons.inj history).2

/-- For a program that offers what it should, while others do. -/
abbrev offering (tasks : Nat → CacheTask) (i : Nat) : Program.Demands Surroundings :=
  Pool.amid (fun _ => True) (Logged tasks) Elsewhere i

theorem offering_step {tasks : Nat → CacheTask} {K : c.Answer → Surroundings → Prop} (notKept : !c.keeps)
    (h : ∀ t r, Elsewhere i s t → t.Allows c r → K r (t.after i c r)) : offering tasks i c K s := by
  refine fun t logged later r allowed _ => ⟨logged.after ?_, fun j other => .call other.symm allowed, h t r later allowed⟩
  rintro key g conn placed same
  obtain rfl : c = .keep key g conn := congrArg Event.call same
  cases notKept

theorem wp_offering_of_only {tasks : Nat → CacheTask} {α : Type} {p : Program α} (h : Program.Only (!·.keeps) p) :
    Program.wp (offering tasks i) (fun _ _ => True) p s :=
  Program.wp_of_only (D := offering tasks i) (I := fun _ => True)
    (fun _ _ _ notKept _ next => offering_step notKept fun _ r _ _ => next r _ trivial) h trivial

end Surroundings

namespace Connections

open Surroundings

variable {tasks : Nat → CacheTask} {s : Surroundings} {i : Nat} {key : ConnectionKey} {g : Nat}

theorem wp_offering_loadCluster (looked : Underway i key g [] s) :
    Op.wp (offering tasks i) (fun record? t => ∀ record, record? = some record →
      ∃ text, Underway i key g [⟨i, .fetch (StoreKeys.cluster key.cluster), .ok (some text)⟩] t)
      (fun _ _ => True) (loadCluster key.cluster) s := by
  refine (wp_bind_ofStore ..).2 (offering_step rfl fun t r later given => ?_)
  have fetched := (looked.elsewhere later).after given
  cases r with
  | error e => trivial
  | ok text? =>
    cases text? with
    | none => exact nofun
    | some text =>
      dsimp only [Program.wp, Except.mapError, Op.Ended]
      split
      · exact fun _ _ => ⟨text, fetched⟩
      · trivial

theorem wp_offering_openUncached {record : ClusterRecord} {kind : LoginKind} {database text : String}
    (loaded : Underway i key g [⟨i, .fetch (StoreKeys.cluster key.cluster), .ok (some text)⟩] s) :
    Op.wp (offering tasks i) (fun conn t => Underway i key g (opening i key text conn) t) (fun _ _ => True)
      (openUncached record kind database) s := by
  refine (wp_bind_ofSql ..).2 (offering_step rfl fun t opened later allowed => ?_)
  cases opened with
  | error e => trivial
  | ok conn =>
    generalize record.target kind database = target at allowed ⊢
    obtain ⟨rfl, -⟩ := allowed conn rfl
    have connected := (loaded.elsewhere later).after allowed
    refine (wp_bind_lift ..).2 (offering_step rfl fun u counted later allowed => ?_)
    exact (connected.elsewhere later).after allowed

theorem wp_offering_getWithin (gets : tasks i = .get key) (more : Nat) :
    Op.wp (offering tasks i) (fun _ _ => True) (fun _ _ => True) (getWithin key more) s := by
  refine wp_getWithin (fun _ _ => True) (fun _ g => Underway i key g [])
    (fun _ g conn s => ∃ text, Underway i key g (opening i key text conn) s) (fun _ _ => trivial)
    (fun _ s _ => offering_step rfl fun t found _ looked => ?_) (fun _ g s looked => ?_) ?_ more trivial
  · cases found with
    | cached conn => trivial
    | missing g => exact underway_after looked
  · refine wp_found (wp_offering_loadCluster looked) (fun _ _ => trivial) (fun record t loaded => ?_) fun _ _ _ => trivial
    obtain ⟨text, loaded⟩ := loaded record rfl
    exact wp_mono (wp_offering_openUncached loaded) (fun _ _ opened => ⟨text, opened⟩) fun _ _ _ => trivial
  · rintro _ g conn s ⟨text, opened⟩ w logged later placed allowed -
    -- The only call that offers a connection: all that was done since the look-up is known here.
    have offered := (opened.elsewhere later).offered allowed
    refine ⟨logged.after ?_, fun j other => .call other.symm allowed, ?_⟩
    · rintro _ _ _ _ ⟨⟩
      exact ⟨gets, offered⟩
    · cases placed with
      | kept => trivial
      | present _ | superseded =>
        exact wp_offering_of_only (Program.only_mono Call.not_keeps_of_works only_closeQuietly)

/-- Who invalidates takes out what there is to be taken out. -/
theorem wp_offering_invalidate (what : Eviction) :
    Program.wp (offering tasks i) (fun _ t => ∃ evicted, ⟨i, .evict what, evicted⟩ ∈ t.history) (invalidate what) s := by
  refine (Program.wp_bind ..).2 (offering_step rfl fun t evicted _ _ => (Program.wp_bind ..).2 ?_)
  have taken : ⟨i, .evict what, evicted⟩ ∈ (t.after i (.evict what) evicted).history := List.mem_cons_self
  have closing : Program.wp (offering tasks i) (fun _ t => ⟨i, .evict what, evicted⟩ ∈ t.history) (closeAll evicted)
      (t.after i (.evict what) evicted) := by
    refine Program.wp_of_only (D := offering tasks i) (I := fun t => ⟨i, .evict what, evicted⟩ ∈ t.history)
      (fun c K t works taken next => ?_) (only_closeAll evicted) taken
    exact offering_step (c.not_keeps_of_works works) fun u r later _ =>
      next r _ (List.mem_cons_of_mem _ (later.grown.subset taken))
  refine Program.wp_mono (fun failures u taken => ?_) closing
  cases failures <;> exact ⟨evicted, taken⟩

end Connections

/-! ## What is in the cache, and what was -/

/-- What is cached was kept and not covered by an invalidation since, and what was kept is cached or was taken out. -/
structure Traced (s : Surroundings) : Prop where
  cached (key : ConnectionKey) (conn : Connection) : (key, conn) ∈ s.broker.cache.entries → ∃ after i g before,
    s.history = after ++ ⟨i, .keep key g conn, .kept⟩ :: before ∧
      ∀ e ∈ after, ∀ what, e.call = .evict what → what.covers key = false
  kept (i : Nat) (key : ConnectionKey) (g : Nat) (conn : Connection) : ⟨i, .keep key g conn, .kept⟩ ∈ s.history →
    (key, conn) ∈ s.broker.cache.entries ∨ ∃ j what, ∃ evicted : List (ConnectionKey × Connection),
      ⟨j, .evict what, evicted⟩ ∈ s.history ∧ (key, conn) ∈ evicted

namespace Surroundings

variable {s : Surroundings} {i : Nat} {c : Call} {r : c.Answer} {entry : ConnectionKey × Connection}

/-- What comes into the cache is kept by the call. -/
theorem of_mem_entries_after (allowed : s.Allows c r) (member : entry ∈ (s.after i c r).broker.cache.entries) :
    (∃ g, Event.mk i c r = ⟨i, .keep entry.1 g entry.2, .kept⟩) ∨
      entry ∈ s.broker.cache.entries ∧ ∀ what, c = .evict what → what.covers entry.1 = false := by
  by_cases keeps : ∃ key g conn, c = .keep key g conn
  · obtain ⟨key, g, conn, rfl⟩ := keeps
    rw [entries_after_keep_eq allowed, List.mem_append] at member
    rcases member with old | new
    · exact .inr ⟨old, nofun⟩
    · cases r with
      | kept =>
        obtain rfl := List.mem_singleton.1 new
        exact .inl ⟨g, rfl⟩
      | _ => simp at new
  · exact .inr (entries_after (fun key g conn same => keeps ⟨key, g, conn, same⟩) member)

/-- What is cached stays unless the call takes it out. -/
theorem mem_entries_after (allowed : s.Allows c r) (member : entry ∈ s.broker.cache.entries) :
    entry ∈ (s.after i c r).broker.cache.entries ∨
      ∃ what, ∃ evicted : List (ConnectionKey × Connection), Event.mk i c r = ⟨i, .evict what, evicted⟩ ∧
        entry ∈ evicted := by
  cases c with
  | keep key g conn =>
    rw [entries_after_keep_eq allowed]
    exact .inl (List.mem_append_left _ member)
  | evict what =>
    obtain rfl : r = s.broker.cache.entries.filter (what.covers ·.1) := allowed
    by_cases covers : what.covers entry.1
    · exact .inr ⟨what, _, rfl, List.mem_filter.2 ⟨member, covers⟩⟩
    · refine .inl (List.mem_filter.2 ⟨member, ?_⟩)
      simpa using covers
  | _ => exact .inl member

end Surroundings

theorem Traced.after {s : Surroundings} {i : Nat} {c : Call} {r : c.Answer} (h : Traced s) (allowed : s.Allows c r) :
    Traced (s.after i c r) where
  cached key conn member := by
    rcases Surroundings.of_mem_entries_after allowed member with ⟨g, new⟩ | ⟨old, uncovered⟩
    · exact ⟨[], i, g, s.history, congrArg (· :: s.history) new, by simp⟩
    · obtain ⟨after, j, g, before, history, uncovered'⟩ := h.cached key conn old
      refine ⟨⟨i, c, r⟩ :: after, j, g, before, ?_, List.forall_mem_cons.2 ⟨uncovered, uncovered'⟩⟩
      rw [Surroundings.after_history, history, List.cons_append]
  kept j key g conn member := by
    have stays (cached : (key, conn) ∈ s.broker.cache.entries) : (key, conn) ∈ (s.after i c r).broker.cache.entries ∨
        ∃ j what, ∃ evicted : List (ConnectionKey × Connection),
          ⟨j, .evict what, evicted⟩ ∈ (s.after i c r).history ∧ (key, conn) ∈ evicted :=
      (Surroundings.mem_entries_after allowed cached).imp_right fun ⟨what, evicted, same, taken⟩ =>
        ⟨i, what, evicted, same ▸ List.mem_cons_self, taken⟩
    rcases List.mem_cons.1 member with new | earlier
    · cases new
      rw [Surroundings.entries_after_keep_eq allowed]
      exact .inl (List.mem_append_right _ (List.mem_singleton_self _))
    · rcases h.kept j key g conn earlier with cached | ⟨k, what, evicted, before, taken⟩
      · exact stays cached
      · exact .inr ⟨k, what, evicted, List.mem_cons_of_mem _ before, taken⟩

/-! ## Tasks -/

namespace CacheTask

variable {values : Table String} {tasks : Nat → CacheTask} {p : Pool (Option Connection)}

/-- Every task offers what it should, and one that invalidates does that. -/
theorem wp_offering (i : Nat) (s : Surroundings) : Program.wp (Surroundings.offering tasks i)
    (fun _ t => ∀ what, tasks i = invalidate what → ∃ evicted, ⟨i, .evict what, evicted⟩ ∈ t.history)
    (tasks i).program s := by
  cases task : tasks i with
  | get key =>
    have got := Connections.wp_offering_getWithin (s := s) task Connections.attempts
    exact Program.wp_seq got fun _ _ _ _ => nofun
  | invalidate what =>
    refine Program.wp_seq (Connections.wp_offering_invalidate what) ?_
    rintro _ t taken _ ⟨⟩
    exact taken
  | _ =>
    refine Program.wp_mono (fun _ _ _ _ => nofun) (Surroundings.wp_offering_of_only (only_of_not_get fun key => nofun))

/-- No task takes out what it got. -/
theorem only_gets (i : Nat) : Program.Only (fun c => ∀ key, tasks i = get key → c.gets) (tasks i).program := by
  by_cases getting : ∃ key, tasks i = get key
  · obtain ⟨key, task⟩ := getting
    rw [task]
    refine Program.only_bind (Program.only_mono (fun _ gets _ _ => gets) ?_) fun _ => Program.only_pure _
    exact Connections.gets_getWithin Connections.attempts
  · exact Program.only_of_forall (fun _ key task => absurd ⟨key, task⟩ getting) _

theorem settles_writing (cluster : String) {write : Program (Except StoreError Unit)}
    (h : Program.wp ledger (fun _ D => D = 0) write 0) :
    Program.wp ledger (fun _ D => D = 0) (writing cluster write) 0 := by
  refine Program.wp_seq h fun written D same => ?_
  subst same
  cases written with
  | error e => rfl
  | ok u =>
    refine Program.wp_seq ?_ fun _ _ same => same
    exact Connections.wp_ledger_invalidate covered_zero _

/-- A task ends owing nothing. -/
theorem settles (task : CacheTask) : Program.wp ledger (fun _ D => D = 0) task.program 0 := by
  have habit := habit_ledger covered_zero
  have free := free_ledger covered_zero
  have ending {α : Type} {q : Program α} (f : α → Option Connection) (settled : Program.wp ledger (fun _ D => D = 0) q 0) :
      Program.wp ledger (fun _ D => D = 0) (q >>= fun a => pure (f a)) 0 :=
    Program.wp_seq settled fun _ _ same => same
  cases task with
  | get key => exact ending _ (settled_of_keeps (Connections.keeps_ledger_getWithin covered_zero key _))
  | invalidate what => exact ending _ (Connections.wp_ledger_invalidate covered_zero what)
  | replace cluster text =>
    exact ending _ (settles_writing cluster ((free _).put _ rfl fun _ _ same => same))
  | remove cluster =>
    exact ending _ (settles_writing cluster ((free _).delete rfl fun _ _ same => same))
  | register cluster request =>
    exact ending _ (settled_of_keeps (habit.keeps_registerCluster (habit.renewable (free _))))
  | delete cluster => exact ending _ (settled_of_keeps (habit.keeps_deleteCluster (habit.renewable (free _))))
  | purge cluster => exact ending _ (settled_of_keeps (habit.keeps_purgeCluster (habit.renewable (free _))))

/-- How invalidations come out for what is being opened. -/
structure Overtaken (tasks : Nat → CacheTask) (p : Pool (Option Connection)) : Prop where
  /-- What is offered to the cache is refused as superseded if and only if an invalidation has reached its cluster since
      the look-up. -/
  offered (after before : List Event) (i : Nat) (key : ConnectionKey) (g : Nat) (conn : Connection)
    (placed : ConnectionCache.Placement) : p.shared.history = after ++ ⟨i, .keep key g conn, placed⟩ :: before →
      tasks i = .get key ∧ Offered i key g conn placed before
  /-- Who has invalidated has taken out what there was to be taken out, ... -/
  invalidated (j : Nat) (what : Eviction) (result : Option Connection) : tasks j = .invalidate what →
    p.tasks j = .done result → ∃ evicted, ⟨j, .evict what, evicted⟩ ∈ p.shared.history
  /-- ... and has closed each connection of it. -/
  closed (j : Nat) (what : Eviction) (evicted : List (ConnectionKey × Connection)) (result : Option Connection) :
    ⟨j, .evict what, evicted⟩ ∈ p.shared.history → p.tasks j = .done result →
      ∀ e ∈ evicted, ∃ r, ⟨j, .close e.2, r⟩ ∈ p.shared.history
  /-- What is cached and covered by an invalidation has been opened after it, by a look-up that came after it as well,
      unless everything was invalidated and its cluster had nothing to be taken out. -/
  cached (after before : List Event) (j : Nat) (what : Eviction) (evicted : List (ConnectionKey × Connection)) :
    p.shared.history = after ++ ⟨j, .evict what, evicted⟩ :: before →
      ∀ key conn, (key, conn) ∈ p.shared.broker.cache.entries → what.covers key →
        (∃ i g text later since earlier, tasks i = .get key ∧
          after = later ++ ⟨i, .keep key g conn, .kept⟩ :: (since ++ ⟨i, .find key, .missing g⟩ :: earlier) ∧
          since.filter (·.asker = i) = opening i key text conn) ∨
        what = .everything ∧ ∀ e ∈ evicted, e.1.cluster ≠ key.cluster
  /-- What was opened by a task that has ended was closed by it, is cached, or was taken out of the cache. -/
  opened (i : Nat) (key : ConnectionKey) (result : Option Connection) (target : Target) (conn : Connection) :
    tasks i = .get key → p.tasks i = .done result → ⟨i, .connect target, .ok conn⟩ ∈ p.shared.history →
      (∃ r, ⟨i, .close conn, r⟩ ∈ p.shared.history) ∨ (key, conn) ∈ p.shared.broker.cache.entries ∨
        ∃ j what, ∃ evicted : List (ConnectionKey × Connection), ⟨j, .evict what, evicted⟩ ∈ p.shared.history ∧
          (key, conn) ∈ evicted

/-- Whoever keeps a connection gets it. -/
theorem gets_of_kept {i : Nat} {key : ConnectionKey} {g : Nat} {conn : Connection} (logged : p.shared.Logged tasks)
    (kept : ⟨i, .keep key g conn, .kept⟩ ∈ p.shared.history) : tasks i = get key := by
  obtain ⟨after, before, history⟩ := List.append_of_mem kept
  exact (logged after before i key g conn .kept history).1

theorem logged_of_reaches (run : Pool.Reaches (pool values tasks) p) : p.shared.Logged tasks ∧
    ∀ j what result, tasks j = invalidate what → p.tasks j = .done result →
      ∃ evicted, ⟨j, .evict what, evicted⟩ ∈ p.shared.history := by
  have start : (pool values tasks).shared.Logged tasks := by
    intro after before i key g conn placed history
    exact absurd history.symm (List.append_ne_nil_of_right_ne_nil _ (List.cons_ne_nil _ _))
  obtain ⟨logged, ends⟩ := run.within.safe (M := Elsewhere)
    (Q := fun i _ t => ∀ what, tasks i = invalidate what → ∃ evicted, ⟨i, .evict what, evicted⟩ ∈ t.history)
    (fun _ => .refl) (fun _ _ _ _ => .trans)
    (fun _ _ _ _ later ended what task =>
      have ⟨evicted, taken⟩ := ended what task
      ⟨evicted, later.grown.subset taken⟩)
    start fun i => wp_offering i _
  refine ⟨logged, fun j what result task ended => ?_⟩
  have taken := ends j
  rw [ended] at taken
  exact taken what task

/-- What is cached after an invalidation that covers it has been looked for and opened after it, unless the invalidation
    did not reach its cluster. -/
theorem opened_after {after before : List Event} {j : Nat} {what : Eviction}
    {evicted : List (ConnectionKey × Connection)} {key : ConnectionKey} {conn : Connection} (traced : Traced p.shared)
    (logged : p.shared.Logged tasks) (history : p.shared.history = after ++ ⟨j, .evict what, evicted⟩ :: before)
    (cached : (key, conn) ∈ p.shared.broker.cache.entries) (covers : what.covers key) :
    (∃ i g text later since earlier, tasks i = get key ∧
      after = later ++ ⟨i, .keep key g conn, .kept⟩ :: (since ++ ⟨i, .find key, .missing g⟩ :: earlier) ∧
      since.filter (·.asker = i) = opening i key text conn) ∨
    ¬Event.Overtakes key.cluster ⟨j, .evict what, evicted⟩ := by
  obtain ⟨later, i, g, past, history', uncovered⟩ := traced.cached key conn cached
  obtain ⟨task, since, earlier, text, rfl, own, placed⟩ := logged _ _ _ _ _ _ _ history'
  -- Nothing has covered the connection since it was kept, so the invalidation came before that.
  rcases Pool.earlier_or_later (by nofun) (history.symm.trans history') with ⟨between, rfl, -⟩ | ⟨between, rfl, past⟩
  · cases (uncovered ⟨j, .evict what, evicted⟩ (by simp) what rfl).symm.trans covers
  · -- If it came after the look-up, too, it did not reach the cluster, because the connection was kept.
    rcases Pool.earlier_or_later (by nofun) past with ⟨since', rfl, -⟩ | ⟨since', rfl, -⟩
    · exact .inl ⟨i, g, text, later, since, since', task, rfl, own⟩
    · refine .inr fun overtakes => ?_
      cases placed.2 ⟨⟨j, .evict what, evicted⟩, by simp, overtakes⟩

/-- However tasks take turns, what is being opened for a cluster is discarded if and only if an invalidation overtakes it
    that names the cluster or takes a connection of it out of the cache. -/
theorem openings_overtaken (run : Pool.Reaches (pool values tasks) p) : Overtaken tasks p := by
  have traced : Traced p.shared := run.keeps (fun _ _ _ _ allowed traced => traced.after allowed) ⟨nofun, nofun⟩
  obtain ⟨logged, invalidated⟩ := logged_of_reaches run
  obtain ⟨D, solvent⟩ := solvent_of_reaches run rfl fun i => (tasks i).settles
  refine ⟨logged, invalidated, ?_, ?_, ?_⟩
  · intro j what evicted result taken ended e member
    obtain ⟨_, made, rfl, settled⟩ := solvent.settled_of_done ended
      ⟨_, taken, rfl, Duty.hold_mem_ofEach (List.mem_map.2 ⟨e, member, rfl⟩)⟩
    rcases Event.of_hold_mem_settles settled with ⟨r, same⟩ | ⟨key, g, same⟩
    · exact ⟨r, same ▸ made⟩
    · have gets := run.only rfl only_gets _ taken key (gets_of_kept logged (same ▸ made))
      cases gets
  · intro after before j what evicted history key conn cached covers
    exact (opened_after traced logged history cached covers).imp_right (Eviction.everything_of_not_overtakes covers)
  · intro i key result target conn task ended connected
    obtain ⟨_, made, rfl, settled⟩ := solvent.settled_of_done ended
      ⟨_, connected, rfl, Duty.hold_mem_ofEach (List.mem_singleton_self conn)⟩
    rcases Event.of_hold_mem_settles settled with ⟨r, same⟩ | ⟨key', g, same⟩
    · exact .inl ⟨r, same ▸ made⟩
    · have kept := same ▸ made
      obtain rfl : key = key' := CacheTask.get.inj (task.symm.trans (gets_of_kept logged kept))
      exact .inr (traced.kept _ key g conn kept)

/-! ## Clearing the cache while a connection is being opened -/

/-- Caller 0 gets a connection, and caller 1 clears the cache. The others are refused at once. -/
def clearingTasks : Nat → CacheTask
  | 0 => get Command.exampleKey
  | 1 => invalidate .everything
  | _ => register "" { host := "", username := "", password := "" }

open ClusterRecord (exampleRecord)

def openedConnection : Connection := ⟨0, exampleRecord.target .management "app"⟩

/-- The cache is cleared when the connection has been opened and not been offered yet. -/
def clearing : List Event :=
  [⟨0, .find Command.exampleKey, .missing 0⟩, RecordTask.readsCluster 0 "main" exampleRecord,
    ⟨0, .connect openedConnection.target, .ok openedConnection⟩, ⟨1, .evict .everything, []⟩,
    ⟨0, .tally .opened, ()⟩, ⟨0, .keep Command.exampleKey 0 openedConnection, .kept⟩]

theorem playable_clearing : Pool.Playable (pool exampleValues clearingTasks).shared clearing := by
  refine ⟨rfl, Surroundings.allows_fetch RecordTask.example_cluster, ?_, rfl, trivial, rfl, trivial⟩
  rintro _ ⟨⟩
  exact ⟨rfl, nofun⟩

/-- A connection that was opened before the cache was cleared is put into it afterwards, and stays there when clearing it
    has come to its end. -/
theorem cleared_while_opening : ∃ p, Pool.Reaches (pool exampleValues clearingTasks) p ∧ Overtaken clearingTasks p ∧
    p.tasks 1 = .done none ∧ (Command.exampleKey, openedConnection) ∈ p.shared.broker.cache.entries ∧
    ∃ after before, p.shared.history = after ++ ⟨1, .evict .everything, []⟩ :: before ∧
      ⟨0, .connect openedConnection.target, .ok openedConnection⟩ ∈ before := by
  have leads : openedConnection.target =
      exampleRecord.target Command.exampleKey.kind (Command.exampleKey.database.getD exampleRecord.database) := rfl
  have gets : Op.wp Pool.scripted (fun conn rest => conn = openedConnection ∧ rest = []) (fun _ _ => False)
      (Connections.get Command.exampleKey) (clearing.filter (·.asker = 0)) := Command.wp_scripted_get leads ⟨rfl, rfl⟩
  have opens : Program.wp Pool.scripted (fun a rest => a = some openedConnection ∧ rest = [])
      (get Command.exampleKey).program (clearing.filter (·.asker = 0)) := by
    refine (Program.wp_bind ..).2 (Program.wp_mono (fun r rest ended => ?_) gets)
    cases r with
    | error e => exact ended.elim
    | ok conn =>
      obtain ⟨rfl, rfl⟩ := ended
      exact ⟨rfl, rfl⟩
  have clears : Program.wp Pool.scripted (fun a rest => a = none ∧ rest = []) (invalidate .everything).program
      (clearing.filter (·.asker = 1)) := ⟨1, [], [], rfl, rfl, rfl⟩
  obtain ⟨p, run, -, ended, -, played⟩ := Pool.reachesWithin_of_two playable_clearing (Pool.throughout_any _ _) opens clears
    (fun _ => ⟨none, rfl⟩) (by decide)
  have reached := run.reaches
  refine ⟨p, reached, openings_overtaken reached, ended, ?_, ?_⟩
  · rw [played]
    exact List.mem_singleton_self _
  · rw [played]
    exact ⟨[⟨0, .keep Command.exampleKey 0 openedConnection, .kept⟩, ⟨0, .tally .opened, ()⟩], _, rfl, List.mem_cons_self⟩

end CacheTask

end LeaseBroker
