import LeaseBroker.Proofs.ConnectionLedger

/-!
The books of the broker balance, whatever commands do at the same time and
whatever fails. What was opened and what was taken out of the cache is what was
put into the cache, what was closed, and what callers still hold (`Balanced`). The
cache holds what was put into it and not taken out, and each connection is opened
once (`Recorded`). So none is closed twice, none that is cached was closed, and
when nobody is at work each that was opened is cached or was closed.

The gauge of cached connections falls for a connection that was taken out, and by
then it has risen for that one, so it never needs to fall below zero. It cannot
count to 2^64, which is the one thing that must not happen here
(`Surroundings.FewOpen`).
-/
namespace LeaseBroker

variable {s : Surroundings} {i : Nat} {call : Call} {r : call.Answer} {D : Multiset Duty}

/-! ## What has happened -/

namespace Event

/-- The connection that was closed, or that closing failed for. -/
def closed? : Event → Option Connection
  | ⟨_, .close conn, _⟩ => some conn
  | _ => none

/-- The connection that was put into the cache. -/
def kept? : Event → Option Connection
  | ⟨_, .keep _ _ conn, .kept⟩ => some conn
  | _ => none

/-- The connections that were taken out of the cache. -/
def evicted : Event → List Connection
  | ⟨_, .evict _, evicted⟩ => List.map Prod.snd evicted
  | _ => []

end Event

namespace Surroundings

/-- The connections for which closing was tried. -/
def closed (s : Surroundings) : List Connection := s.history.filterMap Event.closed?

def kept (s : Surroundings) : List Connection := s.history.filterMap Event.kept?

def evicted (s : Surroundings) : List Connection := s.history.flatMap Event.evicted

/-- How often something was counted. -/
def tallied (what : Tally) (s : Surroundings) : Nat := s.history.countP (·.call = .tally what)

/-- Fewer than 2^64 connections are open. -/
def FewOpen (s : Surroundings) : Prop := s.opened.length < s.closed.length + 2 ^ 64

end Surroundings

/-! ## What is held -/

theorem Event.takes_eq (e : Event) :
    e.call.takes e.answer = Duty.ofEach .opened e.opened?.toList + Duty.ofEach .evicted e.evicted := by
  obtain ⟨i, call, r⟩ := e
  cases call with
  | connect target => cases r <;> exact (add_zero _).symm
  | evict what => exact (zero_add _).symm
  | _ => rfl

/-- All that was taken on is about what was opened and what was taken out of the cache. -/
theorem total_took (s : Surroundings) : total s.took = Duty.ofEach .opened s.opened + Duty.ofEach .evicted s.evicted := by
  unfold Surroundings.took Surroundings.opened Surroundings.evicted
  induction s.history with
  | nil => exact map_zero total
  | cons e earlier ih =>
    rw [List.map_cons, List.sum_cons, map_add, total_single, ih, e.takes_eq]
    simp only [List.filterMap_eq_flatMap_toList, List.flatMap_cons, Duty.ofEach_append]
    abel

/-- To have put connections into the cache, to have closed some, and to have counted some as opened and some as evicted. -/
def Duty.done (kept closed : List Connection) (openings evictions : Nat) : Multiset Duty :=
  Multiset.map Duty.hold kept + Multiset.map Duty.hold closed + Multiset.replicate openings (.count .opened) +
    Multiset.replicate evictions (.count .evicted)

theorem Duty.done_add (kept kept' closed closed' : List Connection) (openings openings' evictions evictions' : Nat) :
    done (kept ++ kept') (closed ++ closed') (openings + openings') (evictions + evictions') =
      done kept closed openings evictions + done kept' closed' openings' evictions' := by
  unfold done
  rw [← Multiset.coe_add, ← Multiset.coe_add, Multiset.map_add, Multiset.map_add, Multiset.replicate_add,
    Multiset.replicate_add]
  abel

theorem Event.settles_eq (e : Event) :
    e.call.settles e.answer = Duty.done e.kept?.toList e.closed?.toList (if e.call = .tally .opened then 1 else 0)
      (if e.call = .tally .evicted then 1 else 0) := by
  obtain ⟨i, call, r⟩ := e
  cases call with
  | keep key generation conn => cases r <;> rfl
  | tally what => cases what <;> rfl
  | _ => rfl

theorem total_settled (s : Surroundings) :
    total s.settled = Duty.done s.kept s.closed (s.tallied .opened) (s.tallied .evicted) := by
  unfold Surroundings.settled Surroundings.kept Surroundings.closed Surroundings.tallied
  induction s.history with
  | nil => exact map_zero total
  | cons e earlier ih =>
    rw [List.map_cons, List.sum_cons, map_add, total_single, ih, e.settles_eq]
    simp only [List.filterMap_eq_flatMap_toList, List.flatMap_cons, List.countP_cons, Nat.add_comm (List.countP _ _),
      Duty.done_add, decide_eq_true_eq]

/-- What was opened and what was taken out of the cache was put into it, closed, or is owed. -/
structure Balanced (D : Multiset Duty) (s : Surroundings) : Prop where
  held (conn : Connection) :
    s.opened.count conn + s.evicted.count conn = s.kept.count conn + s.closed.count conn + D.count (.hold conn)
  holds : s.opened.length + s.evicted.length = s.kept.length + s.closed.length + D.countP (·.isHold)
  openings : s.opened.length = s.tallied .opened + D.count (.count .opened)
  evictions : s.evicted.length = s.tallied .evicted + D.count (.count .evicted)

namespace Duty

variable (kept closed : List Connection) (openings evictions : Nat)

theorem count_hold_done (conn : Connection) :
    (done kept closed openings evictions).count (hold conn) = kept.count conn + closed.count conn := by
  have injective : Function.Injective Duty.hold := fun _ _ same => by cases same; rfl
  simp [done, Multiset.count_replicate, List.count_map_of_injective _ _ injective]

theorem count_opened_done : (done kept closed openings evictions).count (count .opened) = openings := by
  simp [done, Multiset.count_replicate]

theorem count_evicted_done : (done kept closed openings evictions).count (count .evicted) = evictions := by
  simp [done, Multiset.count_replicate]

theorem countP_done : (done kept closed openings evictions).countP (·.isHold) = kept.length + closed.length := by
  have held (conns : List Connection) : (conns.map hold).countP (·.isHold) = conns.length := by
    simp [List.countP_map, Function.comp_def]
  have counted (n : Nat) (what : Tally) : Multiset.countP (·.isHold) (Multiset.replicate n (count what)) = 0 := by
    rw [Multiset.countP_eq_zero]
    intro d member
    rw [Multiset.eq_of_mem_replicate member]
    simp
  have both := congrArg₂ (· + ·) (held kept) (held closed)
  simpa [done, Multiset.countP_add, counted] using both

end Duty

/-- What is owed makes the books balance. -/
theorem balanced_of_owes {D : Nat →₀ Multiset Duty} (owes : Surroundings.Owes D s) : Balanced (total D) s := by
  have flow : Duty.ofEach .opened s.opened + Duty.ofEach .evicted s.evicted =
      Duty.done s.kept s.closed (s.tallied .opened) (s.tallied .evicted) + total D := by
    rw [← total_took, ← total_settled, ← map_add, owes]
  constructor
  · intro conn
    have held := congrArg (Multiset.count (.hold conn)) flow
    rwa [Multiset.count_add, Multiset.count_add, Duty.count_hold_ofEach, Duty.count_hold_ofEach,
      Duty.count_hold_done] at held
  · have holds := congrArg (Multiset.countP (·.isHold)) flow
    rwa [Multiset.countP_add, Multiset.countP_add, Duty.countP_ofEach, Duty.countP_ofEach, Duty.countP_done] at holds
  · have openings := congrArg (Multiset.count (.count .opened)) flow
    rwa [Multiset.count_add, Multiset.count_add, Duty.count_count_ofEach, Duty.count_count_ofEach,
      Duty.count_opened_done] at openings
  · have evictions := congrArg (Multiset.count (.count .evicted)) flow
    rwa [Multiset.count_add, Multiset.count_add, Duty.count_count_ofEach, Duty.count_count_ofEach,
      Duty.count_evicted_done, if_neg (by decide), if_pos rfl, Nat.zero_add] at evictions

/-! ## What the broker knows -/

/-- What the broker itself keeps agrees with what has happened. -/
structure Recorded (s : Surroundings) : Prop where
  serials : (s.opened.map (·.serial)).Nodup
  cached : (s.broker.cache.entries.map Prod.snd ++ s.evicted).Perm s.kept
  counted : s.broker.metrics.opened.value = UInt64.ofNat (s.tallied .opened)

theorem Surroundings.tallied_after {what : Tally} :
    (s.after i call r).tallied what = s.tallied what + if call = .tally what then 1 else 0 := by
  simp [tallied, List.countP_cons]

theorem ConnectionCache.entries_keep (cache : ConnectionCache) (key : ConnectionKey) (generation : Nat) (conn : Connection) :
    (cache.keep key generation conn).2.entries =
      cache.entries ++ if (cache.keep key generation conn).1 = .kept then [(key, conn)] else [] := by
  unfold keep
  split
  · simp
  · split <;> simp

theorem Surroundings.entries_after_keep_eq {key : ConnectionKey} {generation : Nat} {conn : Connection}
    {r : ConnectionCache.Placement} (allowed : s.Allows (.keep key generation conn) r) :
    (s.after i (.keep key generation conn) r).broker.cache.entries =
      s.broker.cache.entries ++ if r = .kept then [(key, conn)] else [] := by
  obtain rfl : r = (s.broker.keep key generation conn).1 := allowed
  show (s.broker.keep key generation conn).2.cache.entries = _
  rw [s.broker.cache_keep, s.broker.placement_keep, ConnectionCache.entries_keep]

/-- A connection was opened as often as it is cached, was closed, and is held. -/
theorem Recorded.count_opened (recorded : Recorded s) (balanced : Balanced D s) (conn : Connection) :
    s.opened.count conn =
      (s.broker.cache.entries.map Prod.snd).count conn + s.closed.count conn + D.count (.hold conn) := by
  have cached := recorded.cached.count_eq conn
  have held := balanced.held conn
  rw [List.count_append] at cached
  omega

theorem Recorded.count_le_one (recorded : Recorded s) (conn : Connection) : s.opened.count conn ≤ 1 :=
  List.nodup_iff_count_le_one.1 recorded.serials.of_map conn

theorem Recorded.closed_nodup (recorded : Recorded s) (balanced : Balanced D s) : s.closed.Nodup := by
  rw [List.nodup_iff_count_le_one]
  intro conn
  have opened := recorded.count_opened balanced conn
  have once := recorded.count_le_one conn
  omega

theorem Recorded.opened_of_closed (recorded : Recorded s) (balanced : Balanced D s) {conn : Connection}
    (closed : conn ∈ s.closed) : conn ∈ s.opened := by
  rw [← List.count_pos_iff] at closed ⊢
  have opened := recorded.count_opened balanced conn
  omega

/-- What is cached was opened and has not been closed. -/
theorem Recorded.open_of_cached (recorded : Recorded s) (balanced : Balanced D s) {key : ConnectionKey} {conn : Connection}
    (cached : (key, conn) ∈ s.broker.cache.entries) : conn ∈ s.opened ∧ conn ∉ s.closed := by
  have member : conn ∈ s.broker.cache.entries.map Prod.snd := List.mem_map.2 ⟨_, cached, rfl⟩
  rw [← List.count_pos_iff] at member ⊢
  rw [← List.count_eq_zero]
  have opened := recorded.count_opened balanced conn
  have once := recorded.count_le_one conn
  omega

/-- Where nothing is owed, what was opened is closed or cached. -/
theorem Recorded.closed_or_cached (recorded : Recorded s) (balanced : Balanced 0 s) {conn : Connection}
    (opened : conn ∈ s.opened) : conn ∈ s.closed ∨ ∃ key, (key, conn) ∈ s.broker.cache.entries := by
  by_cases closed : conn ∈ s.closed
  · exact .inl closed
  · have count := recorded.count_opened balanced conn
    rw [List.count_eq_zero.2 closed, Multiset.count_zero] at count
    have cached : conn ∈ s.broker.cache.entries.map Prod.snd := by
      rw [← List.count_pos_iff] at opened ⊢
      omega
    obtain ⟨⟨key, _⟩, entry, rfl⟩ := List.mem_map.1 cached
    exact .inr ⟨key, entry⟩

theorem Recorded.length_opened (recorded : Recorded s) (balanced : Balanced 0 s) :
    s.opened.length = s.closed.length + s.broker.cache.entries.length := by
  have cached := recorded.cached.length_eq
  have holds := balanced.holds
  simp at cached holds
  omega

theorem Recorded.counter (recorded : Recorded s) (balanced : Balanced 0 s) :
    s.broker.metrics.opened.value = UInt64.ofNat s.opened.length := by
  have openings := balanced.openings
  rw [Multiset.count_zero, Nat.add_zero] at openings
  rw [recorded.counted, openings]

theorem Recorded.after (recorded : Recorded s) (allowed : s.Allows call r) : Recorded (s.after i call r) := by
  have metrics := Surroundings.metrics_after (i := i) allowed
  obtain ⟨serials, cached, counted⟩ := recorded
  cases call with
  | connect target =>
    cases r with
    | error e => exact ⟨serials, cached, counted⟩
    | ok conn =>
      refine ⟨List.nodup_cons.2 ⟨fun member => ?_, serials⟩, cached, counted⟩
      obtain ⟨other, opened, same⟩ := List.mem_map.1 member
      exact (allowed conn rfl).2 other opened same
  | keep key generation conn =>
    have entries := Surroundings.entries_after_keep_eq (i := i) allowed
    refine ⟨serials, ?_, ?_⟩
    · rw [entries]
      cases r with
      | kept =>
        show (List.map Prod.snd (s.broker.cache.entries ++ [(key, conn)]) ++ s.evicted).Perm (conn :: s.kept)
        rw [List.map_append, List.append_assoc]
        exact List.perm_middle.trans (cached.cons conn)
      | _ =>
        rw [if_neg nofun, List.append_nil]
        exact cached
    · rw [metrics]
      cases r <;> exact counted
  | evict what =>
    obtain rfl : r = (s.broker.evict what).1 := allowed
    refine ⟨serials, ?_, counted⟩
    show ((s.broker.cache.entries.filter (!what.covers ·.1)).map Prod.snd ++
      ((s.broker.cache.entries.filter (what.covers ·.1)).map Prod.snd ++ s.evicted)).Perm s.kept
    rw [← List.append_assoc, ← List.map_append]
    have split := List.perm_append_comm.trans (List.filter_append_perm (what.covers ·.1) s.broker.cache.entries)
    exact ((split.map Prod.snd).append_right s.evicted).trans cached
  | tally what =>
    refine ⟨serials, cached, ?_⟩
    rw [Surroundings.tallied_after]
    cases what with
    | opened =>
      show s.broker.metrics.opened.value + 1 = _
      rw [counted, if_pos rfl, UInt64.ofNat_add]
      rfl
    | _ => exact counted
  | _ => exact ⟨serials, cached, counted⟩

/-! ## The gauge -/

/-- The gauge stands at the connections that were put into the cache, less those counted as evicted. -/
def Gauged (s : Surroundings) : Prop := s.broker.metrics.cached.value.toNat + s.tallied .evicted = s.kept.length

/-- What the gauge stands at is no more than there are connections open. -/
theorem Balanced.kept_le (balanced : Balanced D s) (covered : Covered D) :
    s.kept.length + s.closed.length ≤ s.opened.length + s.tallied .evicted := by
  have holds := balanced.holds
  have evictions := balanced.evictions
  unfold Covered at covered
  omega

/-- Where an eviction is still to be counted, the gauge does not stand at zero. -/
theorem Gauged.ne_zero (gauged : Gauged s) (recorded : Recorded s) (balanced : Balanced D s)
    (uncounted : 0 < D.count (.count .evicted)) : s.broker.metrics.cached.value ≠ 0 := by
  intro zero
  have evictions := balanced.evictions
  have cached := recorded.cached.length_eq
  unfold Gauged at gauged
  rw [zero] at gauged
  simp at gauged cached
  omega

/-- Where nothing is owed, the gauge stands at what is cached. -/
theorem Gauged.cached (gauged : Gauged s) (recorded : Recorded s) (balanced : Balanced 0 s) :
    s.broker.metrics.cached.value.toNat = s.broker.cache.entries.length := by
  have cached := recorded.cached.length_eq
  have evictions := balanced.evictions
  unfold Gauged at gauged
  simp at cached evictions
  omega

theorem Gauged.after (gauged : Gauged s) (allowed : s.Allows call r) (uncounted : call ≠ .tally .cached)
    (risen : call = .tally .evicted → s.broker.metrics.cached.value ≠ 0)
    (few : (s.after i call r).kept.length < (s.after i call r).tallied .evicted + 2 ^ 64) : Gauged (s.after i call r) := by
  have metrics := Surroundings.metrics_after (i := i) allowed
  have one : (1 : UInt64).toNat = 1 := rfl
  unfold Gauged at gauged ⊢
  rw [Surroundings.tallied_after] at few ⊢
  rw [metrics]
  cases call with
  | keep key generation conn =>
    cases r with
    | kept =>
      show (s.broker.metrics.cached.value + 1).toNat + (s.tallied .evicted + 0) = s.kept.length + 1
      change s.kept.length + 1 < s.tallied .evicted + 0 + 2 ^ 64 at few
      rw [UInt64.toNat_add]
      omega
    | _ => exact gauged
  | tally what =>
    cases what with
    | cached => exact absurd rfl uncounted
    | evicted =>
      have nonzero := risen rfl
      show (if s.broker.metrics.cached.value = 0 then 0 else s.broker.metrics.cached.value - 1).toNat +
        (s.tallied .evicted + 1) = s.kept.length
      have least : (1 : UInt64) ≤ s.broker.metrics.cached.value := by
        rw [UInt64.le_iff_toNat_le, one]
        exact Nat.pos_of_ne_zero fun zero => nonzero (UInt64.toNat_inj.1 zero)
      rw [if_neg nonzero, UInt64.toNat_sub_of_le _ _ least]
      rw [UInt64.le_iff_toNat_le] at least
      omega
    | _ => exact gauged
  | _ => exact gauged

/-! ## Commands -/

namespace Command

open Surroundings (FewOpen)

variable {commands : Nat → Command} {values : Table String} {q : Pool (Except BrokerError (Option Credential))}

theorem recorded (run : Pool.Reaches (pool commands ⟨values, .empty, []⟩) q) : Recorded q.shared :=
  run.keeps (fun _ _ _ _ allowed recorded => recorded.after allowed) ⟨List.nodup_nil, List.Perm.nil, rfl⟩

/-- Who is about to count an eviction owes that. -/
theorem uncounted_of_turn {D : Nat →₀ Multiset Duty} (solvent : Solvent D q) {next : Unit → Program _}
    (turn : q.tasks i = .call (.tally .evicted) next) : 0 < (total D).count (.count .evicted) := by
  have own := (solvent.2 i).2
  rw [turn] at own
  obtain ⟨-, answered⟩ := own
  obtain ⟨E, paid, -⟩ := answered ()
  have member : Duty.count .evicted ∈ D i := by
    have due : Duty.count .evicted ∈ D i + 0 := by
      rw [show D i + 0 = {.count .evicted} + E from paid]
      simp
    simpa using due
  exact Multiset.count_pos.2 (Multiset.mem_of_le (le_total D i) member)

/-- The gauge is right all the time, where never too many connections were open. -/
theorem gauged (run : Pool.ReachesWithin FewOpen (pool commands ⟨values, .empty, []⟩) q) : Gauged q.shared := by
  induction run with
  | refl => rfl
  | @tail p q before step ih =>
    obtain ⟨step, few⟩ := step
    have reached := Pool.ReachesWithin.reaches before
    obtain ⟨D, solvent⟩ := solvent reached
    obtain ⟨E, solvent'⟩ := Command.solvent (reached.tail step)
    have balanced' := balanced_of_owes solvent'.1
    have bound := balanced'.kept_le (covered_total fun i => (solvent'.2 i).1)
    obtain @⟨i, call, next, r, turn, allowed⟩ := step
    have own := (solvent.2 i).2
    rw [turn] at own
    refine ih.after allowed own.1 ?_ ?_
    · rintro rfl
      exact ih.ne_zero (recorded reached) (balanced_of_owes solvent.1) (uncounted_of_turn solvent turn)
    · have few : (p.shared.after i call r).FewOpen := few
      change (p.shared.after i call r).kept.length + (p.shared.after i call r).closed.length ≤ _ at bound
      unfold FewOpen at few
      change _ ≤ (p.shared.after i call r).opened.length + (p.shared.after i call r).tallied .evicted at bound
      omega

/-- When nobody is at work, nobody owes anything. -/
theorem balanced_of_idle (run : Pool.Reaches (pool commands ⟨values, .empty, []⟩) q) (idle : ∀ i, Idle q i) :
    Balanced 0 q.shared := by
  obtain ⟨D, solvent⟩ := solvent run
  obtain rfl : D = 0 := Finsupp.ext fun i => solvent.eq_zero_of_idle (idle i)
  exact map_zero total ▸ balanced_of_owes solvent.1

/-- No connection is closed twice, and none that is cached was closed. When nobody is at work every connection that was
    opened is closed or cached, there are as many in the cache as were opened and not closed, and the counters say so. The
    gauge does too, where fewer than 2^64 were open at a time, and it is never at zero when it is to fall. -/
theorem connections_balance (run : Pool.Reaches (pool commands ⟨values, .empty, []⟩) q) :
    q.shared.closed.Nodup ∧ (∀ conn ∈ q.shared.closed, conn ∈ q.shared.opened) ∧
    (∀ key conn, (key, conn) ∈ q.shared.broker.cache.entries → conn ∈ q.shared.opened ∧ conn ∉ q.shared.closed) ∧
    ((∀ i, Idle q i) →
      (∀ conn ∈ q.shared.opened, conn ∈ q.shared.closed ∨ ∃ key, (key, conn) ∈ q.shared.broker.cache.entries) ∧
      q.shared.opened.length = q.shared.closed.length + q.shared.broker.cache.entries.length ∧
      q.shared.broker.metrics.opened.value = UInt64.ofNat q.shared.opened.length) ∧
    (Pool.ReachesWithin FewOpen (pool commands ⟨values, .empty, []⟩) q →
      ((∀ i, Idle q i) → q.shared.broker.metrics.cached.value.toNat = q.shared.broker.cache.entries.length) ∧
      ∀ i next, q.tasks i = .call (.tally .evicted) next → q.shared.broker.metrics.cached.value ≠ 0) := by
  have recorded := recorded run
  obtain ⟨D, solvent⟩ := solvent run
  have balanced := balanced_of_owes solvent.1
  refine ⟨recorded.closed_nodup balanced, fun _ => recorded.opened_of_closed balanced,
    fun _ _ => recorded.open_of_cached balanced, fun idle => ?_, fun few => ⟨fun idle => ?_, fun i next turn => ?_⟩⟩
  · have balanced := balanced_of_idle run idle
    exact ⟨fun _ => recorded.closed_or_cached balanced, recorded.length_opened balanced, recorded.counter balanced⟩
  · exact (gauged few).cached recorded (balanced_of_idle run idle)
  · exact (gauged few).ne_zero recorded balanced (uncounted_of_turn solvent turn)

/-! ## A connection that comes and goes -/

/-- Where there are few events, few connections are open. -/
theorem few_open_of_short {events : List Event} (short : s.history.length + events.length < 2 ^ 64) :
    Pool.Throughout FewOpen s events := by
  induction events generalizing s with
  | nil => trivial
  | cons e rest ih =>
    rw [List.length_cons] at short
    have grown : (s.after e.asker e.call e.answer).history.length = s.history.length + 1 := List.length_cons
    refine ⟨?_, ih (by omega)⟩
    have fewer : (s.after e.asker e.call e.answer).opened.length ≤ (s.after e.asker e.call e.answer).history.length :=
      List.length_filterMap_le ..
    unfold FewOpen
    omega

/-- A connection that was looked for before the deletion of its cluster is opened, cached, taken out again and closed. -/
theorem early_look_up_balances : ∃ q, Pool.ReachesWithin FewOpen (pool exampleCommands exampleStart) q ∧
    (∀ i, Idle q i) ∧ q.shared.opened = [exampleConnection] ∧ q.shared.closed = [exampleConnection] ∧
    q.shared.broker.cache.entries = [] ∧ q.shared.broker.metrics.opened.value = 1 ∧
    q.shared.broker.metrics.cached.value.toNat = 0 := by
  obtain ⟨q, run, idle, -, reached⟩ := reaches_of_parts (.inr rfl) playable_earlyLookUp
    (few_open_of_short (by decide)) rfl rfl (by decide)
  obtain ⟨-, -, -, rest, few⟩ := connections_balance run.reaches
  obtain ⟨-, balance, counter⟩ := rest idle
  have opened : q.shared.opened = [exampleConnection] := by rw [reached]; rfl
  have closed : q.shared.closed = [exampleConnection] := by rw [reached]; rfl
  have empty : q.shared.broker.cache.entries = [] := by
    rw [opened, closed] at balance
    exact List.eq_nil_of_length_eq_zero (by simpa using balance)
  refine ⟨q, run, idle, opened, closed, empty, ?_, ?_⟩
  · rw [counter, opened]
    rfl
  · rw [(few run).1 idle, empty]
    rfl

end Command

end LeaseBroker
