import LeaseBroker.Proofs.OvertakenOpenings

/-!
Callers that get a connection for one key at the same time, whatever others do
meanwhile. What such a caller opens and closes is told by its own calls, however
they are answered (`Pool.telling`), and whatever calls of others stand in between
(`Pool.Reaches.told`). What others do decides only whether an attempt is
overtaken. Each attempt that is overtaken has seen the generation of its cluster
raised, so an invalidation has come since its look-up, and the next look-up comes
later (`Surroundings.Invalidated`). Without an invalidation of its key what was
cached once stays cached, so that all get the same.
-/
namespace LeaseBroker

open Op
open Program (Demands Monotone)
open Pool (Elsewhere)

/-- Whether an invalidation is about a cluster: about all of it, one of its databases, or everything. -/
def Eviction.concerns (cluster : String) : Eviction → Bool
  | .cluster c => c == cluster
  | .database c _ => c == cluster
  | .everything => true

namespace Event

/-- Whether a cluster is invalidated. -/
def invalidates (cluster : String) (e : Event) : Bool :=
  match e.call with
  | .evict what => what.concerns cluster
  | _ => false

/-- Whether what is cached for a key is taken out. -/
def empties (key : ConnectionKey) (e : Event) : Bool :=
  match e.call with
  | .evict what => what.covers key
  | _ => false

end Event

/-- The connections that caller `i` has opened, the latest first. -/
def openedBy (i : Nat) (events : List Event) : List Connection :=
  (events.filter (·.asker = i)).filterMap Event.opened?

/-- The connections that caller `i` has closed, or tried to, the latest first. -/
def closedBy (i : Nat) (events : List Event) : List Connection :=
  (events.filter (·.asker = i)).filterMap Event.closed?

/-! ## What a caller does -/

namespace Pool

/-- For a program of caller `i` that keeps the list of its own calls within `I`, however they are answered. -/
def telling (I : List Event → Prop) (i : Nat) : Demands (List Event) :=
  fun c K own => ∀ r, I (⟨i, c, r⟩ :: own) ∧ K r (⟨i, c, r⟩ :: own)

instance (I : List Event → Prop) (i : Nat) : Monotone (telling I i) where
  mono weaker h r := ⟨(h r).1, weaker r _ (h r).2⟩

variable {α : Type} {p q : Pool α} {i : Nat}

/-- What a program does when it runs among others is what it does by itself. -/
theorem Reaches.told {I : List Event → Prop} {Q : α → List Event → Prop} (run : Reaches p q) (start : I [])
    (own : Program.wp (telling I i) Q (p.tasks i) []) :
    ∃ events, q.shared.history = events ++ p.shared.history ∧ I (events.filter (·.asker = i)) ∧
      Program.wp (telling I i) Q (q.tasks i) (events.filter (·.asker = i)) := by
  induction run with
  | refl => exact ⟨[], rfl, start, own⟩
  | @tail u v _ step ih =>
    obtain ⟨events, history, within, left⟩ := ih
    obtain @⟨j, c, next, r, turn, -⟩ := step
    refine ⟨⟨j, c, r⟩ :: events, congrArg _ history, ?_⟩
    by_cases same : j = i
    · subst same
      rw [turn] at left
      rw [List.filter_cons_of_pos (by simp), tasks_after_self]
      exact left r
    · rw [List.filter_cons_of_neg (by simpa using same), tasks_after_of_ne u (Ne.symm same)]
      exact ⟨within, left⟩

end Pool

namespace Connections

open Pool (telling)

variable {i : Nat} {key : ConnectionKey}

/-- A caller has opened three connections at most. -/
def Frugal (own : List Event) : Prop := (own.filterMap Event.opened?).length ≤ 3

/-- A caller has opened `n` connections, and has closed all but those that it still holds. -/
structure Clean (n : Nat) (holds : List Connection) (own : List Event) : Prop where
  closed : own.filterMap Event.opened? = holds ++ own.filterMap Event.closed?
  opened : (own.filterMap Event.opened?).length = n

/-- What a caller who got `result` has opened and not closed: nothing, or the connection that it has got and cached. -/
def Left (i : Nat) (key : ConnectionKey) (result : Except BrokerError Connection) (own : List Event) : Prop :=
  own.filterMap Event.opened? = own.filterMap Event.closed? ∨
    ∃ conn g, result = .ok conn ∧ ⟨i, .keep key g conn, .kept⟩ ∈ own ∧
      own.filterMap Event.opened? = conn :: own.filterMap Event.closed?

namespace Clean

variable {n : Nat} {holds : List Connection} {own : List Event} {conn : Connection} {c : Call}

theorem frugal (h : Clean n holds own) (few : n ≤ 3) : Frugal own := by
  have opened := h.opened
  unfold Frugal
  omega

/-- A caller that holds nothing leaves nothing. -/
theorem left (h : Clean n [] own) (result : Except BrokerError Connection) : Left i key result own := .inl h.closed

/-- Another call opens and closes nothing. -/
theorem other {e : Event} (h : Clean n holds own) (unopened : e.opened? = none) (unclosed : e.closed? = none) :
    Clean n holds (e :: own) := by
  obtain ⟨closed, opened⟩ := h
  constructor
  · rw [List.filterMap_cons_none unopened, List.filterMap_cons_none unclosed, closed]
  · rw [List.filterMap_cons_none unopened, opened]

theorem quiet (h : Clean n holds own) (quiet : c.quiet) (r : c.Answer) : Clean n holds (⟨i, c, r⟩ :: own) := by
  cases c with
  | fetch | list | find | metrics | uuid | password | now => exact h.other rfl rfl
  | _ => cases quiet

theorem connected (h : Clean n [] own) (target : Target) (conn : Connection) :
    Clean (n + 1) [conn] (⟨i, .connect target, .ok conn⟩ :: own) :=
  ⟨congrArg (conn :: ·) h.closed, congrArg (· + 1) h.opened⟩

theorem close (h : Clean n [conn] own) (r : Except SqlError Unit) : Clean n [] (⟨i, .close conn, r⟩ :: own) :=
  ⟨h.closed, h.opened⟩

end Clean

variable {n : Nat} {own : List Event}

theorem wp_telling_loadCluster {name : String} (clean : Clean n [] own) (few : n ≤ 3) :
    Op.wp (telling Frugal i) (fun _ => Clean n []) (fun _ => Clean n []) (loadCluster name) own := by
  have quiet : Op.Only (·.quiet) (loadCluster name) := only_loadRecord
  refine wp_of_only (D := telling Frugal i) (fun c K own quiet clean next r => ?_) quiet clean
  have clean := clean.quiet (i := i) quiet r
  exact ⟨clean.frugal few, next r _ clean⟩

theorem wp_telling_openUncached {record : ClusterRecord} {kind : LoginKind} {database : String} (clean : Clean n [] own)
    (few : n < 3) : Op.wp (telling Frugal i) (fun conn => Clean (n + 1) [conn]) (fun _ => Clean n [])
      (openUncached record kind database) own := by
  refine (wp_bind_ofSql ..).2 fun r => ?_
  cases r with
  | error e =>
    have failed := clean.other (e := ⟨i, .connect (record.target kind database), .error e⟩) rfl rfl
    exact ⟨failed.frugal (Nat.le_of_lt few), failed⟩
  | ok conn =>
    have connected := clean.connected (i := i) (record.target kind database) conn
    refine ⟨connected.frugal few, (wp_bind_lift ..).2 fun r => ?_⟩
    have counted := connected.other (e := ⟨i, .tally .opened, r⟩) rfl rfl
    exact ⟨counted.frugal few, counted⟩

theorem wp_telling_closeQuietly {conn : Connection} (clean : Clean n [conn] own) (few : n ≤ 3) :
    Program.wp (telling Frugal i) (fun _ => Clean n []) (closeQuietly conn) own := by
  refine (Program.wp_bind ..).2 fun r => ?_
  have closed := clean.close (i := i) r
  exact ⟨closed.frugal few, closed⟩

/-- Each attempt opens one connection at most, and it is closed before the next. -/
theorem wp_telling_getWithin {more : Nat} (clean : Clean n [] own) (few : n + more = 3) :
    Op.wp (telling Frugal i) (fun conn => Left i key (.ok conn)) (fun e => Left i key (.error e)) (getWithin key more)
      own := by
  refine wp_getWithin (fun more own => ∃ n, Clean n [] own ∧ n + more = 3)
    (fun more _ own => ∃ n, Clean n [] own ∧ n + more = 2)
    (fun more _ conn own => ∃ n, Clean n [conn] own ∧ n + more = 3) ?_ ?_ ?_ ?_ more ⟨n, clean, few⟩
  · rintro own ⟨n, clean, -⟩
    exact clean.left _
  · rintro more own ⟨n, clean, few⟩ found
    have looked := clean.quiet (i := i) (c := .find key) rfl found
    refine ⟨looked.frugal (by omega), ?_⟩
    cases found with
    | cached conn => exact looked.left _
    | missing g => exact ⟨n, looked, by omega⟩
  · rintro more g own ⟨n, clean, few⟩
    refine wp_found (wp_telling_loadCluster clean (by omega)) (fun _ clean => clean.left _) (fun record own clean => ?_)
      fun _ _ clean => clean.left _
    exact wp_mono (wp_telling_openUncached clean (by omega)) (fun _ _ opened => ⟨n + 1, opened, by omega⟩)
      fun _ _ clean => clean.left _
  · rintro more g conn own ⟨n, opened, few⟩ placed
    have offered := opened.other (e := ⟨i, .keep key g conn, placed⟩) rfl rfl
    have closing := wp_telling_closeQuietly offered (i := i) (by omega)
    refine ⟨offered.frugal (by omega), ?_⟩
    cases placed with
    | kept => exact .inr ⟨conn, g, rfl, List.mem_cons_self, opened.closed⟩
    | present existing => exact Program.wp_mono (fun _ _ clean => clean.left _) closing
    | superseded => exact Program.wp_mono (fun _ _ clean => ⟨n, clean, few⟩) closing

end Connections

/-! ## What others do -/

namespace Surroundings

variable {s t : Surroundings} {i : Nat} {c : Call} {r : c.Answer} {key : ConnectionKey} {conn : Connection}
  {cluster : String}

/-- Only an invalidation of the cluster raises its generation. -/
theorem generation_of_not_invalidates (other : Event.invalidates cluster ⟨i, c, r⟩ = false) :
    (s.after i c r).generation cluster = s.generation cluster := by
  by_cases evicts : ∃ what, c = .evict what
  · obtain ⟨what, rfl⟩ := evicts
    have apart : cluster ∉ s.broker.cache.raisedBy what := by
      cases what with
      | everything => cases other
      | cluster name | database name =>
        have unlike : name ≠ cluster := by simpa [Event.invalidates, Eviction.concerns] using other
        exact fun member => unlike (List.mem_singleton.1 member).symm
    rw [generation_after_evict, List.count_eq_zero_of_not_mem apart, Nat.add_zero]
  · exact generation_of_not_evict fun what same => evicts ⟨what, same⟩

/-- What is cached for a key stays until it is taken out. -/
theorem get?_after_of_cached (allowed : s.Allows c r) (cached : s.broker.cache.get? key = some conn)
    (stays : Event.empties key ⟨i, c, r⟩ = false) : (s.after i c r).broker.cache.get? key = some conn := by
  unfold ConnectionCache.get? at cached ⊢
  cases c with
  | keep other g d => rw [entries_after_keep_eq allowed, List.lookup_append, cached, Option.some_or]
  | evict what =>
    have uncovered : (!what.covers key) = true := by simpa [Event.empties] using stays
    rw [← cached]
    exact ConnectionCache.lookup_filter (p := fun k => !what.covers k) s.broker.cache.entries uncovered
  | _ => exact cached

/-- A connection that was kept is cached. -/
theorem get?_after_of_kept {g : Nat} (allowed : s.Allows (.keep key g conn) .kept) :
    (s.after i (.keep key g conn) .kept).broker.cache.get? key = some conn := by
  have placed : .kept = (s.broker.cache.keep key g conn).1 := allowed.trans (BrokerState.placement_keep ..)
  have free : s.broker.cache.entries.lookup key = none := ConnectionCache.get?_of_kept placed.symm
  unfold ConnectionCache.get?
  rw [entries_after_keep_eq allowed, List.lookup_append, free, Option.none_or]
  exact List.lookup_cons_self

/-- What every call keeps. -/
def Lasting (P : Surroundings → Prop) : Prop := ∀ s i c r, s.Allows c r → P s → P (s.after i c r)

theorem Lasting.elsewhere {P : Surroundings → Prop} (lasting : Lasting P) (later : Elsewhere i s t) (h : P s) : P t := by
  obtain ⟨events, passed, -⟩ := later
  exact passed.keeps (fun e _ s allowed => lasting s e.asker e.call e.answer allowed) h

/-- Since `s` a cluster was invalidated `n` times at least. -/
def Invalidated (s : Surroundings) (cluster : String) (n : Nat) (t : Surroundings) : Prop :=
  ∃ events, t.history = events ++ s.history ∧ n ≤ events.countP (Event.invalidates cluster)

theorem lasting_invalidated (s : Surroundings) (cluster : String) (n : Nat) : Lasting (Invalidated s cluster n) := by
  rintro t i c r - ⟨events, history, many⟩
  refine ⟨⟨i, c, r⟩ :: events, congrArg _ history, Nat.le_trans many ?_⟩
  rw [List.countP_cons]
  omega

/-- Since `s` a cluster was invalidated `n` times at least, and once more where its generation is not `g` any longer. -/
def Charged (s : Surroundings) (cluster : String) (n g : Nat) (t : Surroundings) : Prop :=
  Invalidated s cluster n t ∧ (t.generation cluster ≠ g → Invalidated s cluster (n + 1) t)

theorem lasting_charged (s : Surroundings) (cluster : String) (n g : Nat) : Lasting (Charged s cluster n g) := by
  rintro t i c r allowed ⟨charged, raised⟩
  refine ⟨lasting_invalidated s cluster n t i c r allowed charged, fun moved => ?_⟩
  by_cases now : Event.invalidates cluster ⟨i, c, r⟩
  · obtain ⟨events, history, many⟩ := charged
    refine ⟨⟨i, c, r⟩ :: events, congrArg _ history, ?_⟩
    rw [List.countP_cons_of_pos now]
    exact Nat.succ_le_succ many
  · have stood : (t.after i c r).generation cluster = t.generation cluster :=
      generation_of_not_invalidates (Bool.eq_false_of_not_eq_true now)
    exact lasting_invalidated s cluster (n + 1) t i c r allowed (raised (stood ▸ moved))

/-- A connection is cached for a key, unless the key was emptied since `s`. -/
def Remains (s : Surroundings) (key : ConnectionKey) (conn : Connection) (t : Surroundings) : Prop :=
  ∃ events, t.history = events ++ s.history ∧
    ((∀ e ∈ events, e.empties key = false) → t.broker.cache.get? key = some conn)

theorem lasting_remains (s : Surroundings) (key : ConnectionKey) (conn : Connection) :
    Lasting (Remains s key conn) := by
  rintro t i c r allowed ⟨events, history, cached⟩
  refine ⟨⟨i, c, r⟩ :: events, congrArg _ history, fun full => ?_⟩
  obtain ⟨now, before⟩ := List.forall_mem_cons.1 full
  exact get?_after_of_cached allowed (cached before) now

/-- What was invalidated since `s` need not be known for what is cached now. -/
theorem Invalidated.remains {n : Nat} (h : Invalidated s cluster n t) (cached : t.broker.cache.get? key = some conn) :
    Remains s key conn t :=
  have ⟨events, history, _⟩ := h
  ⟨events, history, fun _ => cached⟩

end Surroundings

namespace Pool

open Surroundings (Lasting)

variable {α : Type} {i : Nat} {s : Surroundings}

/-- For a program of caller `i` beside others of which nothing is known. -/
abbrev besideAny (i : Nat) : Demands Surroundings := amid (fun _ => True) (fun _ => True) Elsewhere i

/-- What lasts is still there before and after the next call. -/
theorem besideAny_of {P : Surroundings → Prop} {c : Call} {K : c.Answer → Surroundings → Prop} (lasting : Lasting P)
    (start : P s) (h : ∀ t r, P t → t.Allows c r → P (t.after i c r) → K r (t.after i c r)) : besideAny i c K s := by
  intro t _ later r allowed _
  have before : P t := lasting.elsewhere later start
  exact ⟨trivial, fun j other => .call other.symm allowed, h t r before allowed (lasting t i c r allowed before)⟩

theorem wp_besideAny {P : Surroundings → Prop} (lasting : Lasting P) (start : P s) (program : Program α) :
    Program.wp (besideAny i) (fun _ => P) program s := by
  induction program generalizing s with
  | done a => exact start
  | call c next ih => exact besideAny_of lasting start fun t r _ _ after => ih r after

/-- What a program needs beside others it has needed all the time. -/
theorem Reaches.besideAny {p q : Pool α} {Q : α → Surroundings → Prop} (run : Reaches p q)
    (lasting : ∀ a, Lasting (Q a)) (own : Program.wp (besideAny i) Q (p.tasks i) p.shared) :
    Program.wp (Pool.besideAny i) Q (q.tasks i) q.shared := by
  have others (j : Nat) : Program.wp (Pool.besideAny j) (fun _ _ => True) (p.tasks j) p.shared :=
    wp_besideAny (fun _ _ _ _ _ _ => trivial) trivial (p.tasks j)
  exact (run.within.safe_own (fun _ => .refl) (fun _ _ _ _ => .trans) (fun a _ _ => (lasting a).elsewhere) trivial own others).2

end Pool

namespace Connections

open Pool (telling besideAny besideAny_of wp_besideAny)
open Surroundings

variable {i n : Nat} {key : ConnectionKey} {s t : Surroundings}

/-- The text of the error of a caller whose attempts were all overtaken. -/
def gaveUp (key : ConnectionKey) : String :=
  "connection for " ++ key.text ++ s!" was invalidated {attempts} times while opening"

theorem wp_besideAny_loadCluster {P : Surroundings → Prop} {name : String} (lasting : Lasting P) (start : P t) :
    Op.wp (besideAny i) (fun _ => P) (fun e _ => ∀ text, e ≠ .internal text) (loadCluster name) t := by
  refine (wp_bind_ofStore ..).2 (besideAny_of lasting start fun t r _ _ after => ?_)
  cases r with
  | error e => exact nofun
  | ok text? =>
    cases text? with
    | none => exact after
    | some text =>
      dsimp only [Program.wp, Except.mapError, Op.Ended]
      split
      · exact after
      · exact nofun

theorem wp_besideAny_openUncached {P : Surroundings → Prop} {record : ClusterRecord} {kind : LoginKind}
    {database : String} (lasting : Lasting P) (start : P t) :
    Op.wp (besideAny i) (fun _ => P) (fun e _ => ∀ text, e ≠ .internal text) (openUncached record kind database) t := by
  refine (wp_bind_ofSql ..).2 (besideAny_of lasting start fun t r _ _ after => ?_)
  cases r with
  | error e => exact nofun
  | ok conn => exact (wp_bind_lift ..).2 (besideAny_of lasting after fun t r _ _ after => after)

/-- Each attempt that is overtaken is charged to an invalidation that has come since its look-up. -/
theorem wp_besideAny_getWithin {more : Nat} (invalidated : Invalidated s key.cluster n t) (left : n + more = 3) :
    Op.wp (besideAny i) (fun conn => Remains s key conn)
      (fun e u => ∀ text, e = .internal text → text = gaveUp key ∧ Invalidated s key.cluster 3 u) (getWithin key more)
      t := by
  refine wp_getWithin (fun more t => ∃ n, Invalidated s key.cluster n t ∧ n + more = 3)
    (fun more g t => ∃ n, Charged s key.cluster n g t ∧ n + more = 2)
    (fun more g _ t => ∃ n, Charged s key.cluster n g t ∧ n + more = 2) ?_ ?_ ?_ ?_ more ⟨n, invalidated, left⟩
  · rintro t ⟨n, invalidated, rfl⟩ text ⟨⟩
    exact ⟨rfl, invalidated⟩
  · rintro more t ⟨n, invalidated, left⟩
    refine besideAny_of (lasting_invalidated s key.cluster n) invalidated fun t found before looked after => ?_
    cases found with
    | cached conn => exact after.remains (ConnectionCache.get?_of_cached looked.symm)
    | missing g => exact ⟨n, ⟨after, fun moved => absurd (generation_of_missing looked) moved⟩, by omega⟩
  · rintro more g t ⟨n, charged, left⟩
    have lasting := lasting_charged s key.cluster n g
    refine wp_found (wp_besideAny_loadCluster lasting charged) (fun _ _ => nofun) (fun record t charged => ?_)
      fun e _ other text same => absurd same (other text)
    exact wp_mono (wp_besideAny_openUncached lasting charged) (fun _ _ charged => ⟨n, charged, left⟩)
      fun e _ other text same => absurd same (other text)
  · rintro more g conn t ⟨n, charged, left⟩
    refine besideAny_of (lasting_charged s key.cluster n g) charged fun t placed before allowed after => ?_
    have put : placed = (t.broker.cache.keep key g conn).1 := allowed.trans (BrokerState.placement_keep ..)
    cases placed with
    | kept => exact after.1.remains (get?_after_of_kept allowed)
    | present existing =>
      have found : t.broker.cache.get? key = some existing := ConnectionCache.get?_of_present put.symm
      have cached := get?_after_of_cached (i := i) allowed found rfl
      exact wp_besideAny (lasting_remains s key existing) (after.1.remains cached) _
    | superseded =>
      have moved : t.generation key.cluster ≠ g := (ConnectionCache.superseded_iff ..).1 put.symm
      have lasting := lasting_invalidated s key.cluster (n + 1)
      have again := lasting t i (.keep key g conn) .superseded allowed (before.2 moved)
      exact Program.wp_mono (fun _ _ again => ⟨n + 1, again, by omega⟩) (wp_besideAny lasting again _)

/-! ## All of them -/

/-- How caller `i` fares that gets a connection for a key, where `events` have passed and `task` is left of it. -/
structure Getting (key : ConnectionKey) (i : Nat) (events : List Event)
    (task : Program (Except BrokerError Connection)) : Prop where
  opens : (openedBy i events).length ≤ 3
  /-- At the end it has closed what it has opened, but the connection that it gets and has cached. -/
  closes (result : Except BrokerError Connection) : task = .done result →
    openedBy i events = closedBy i events ∨
      ∃ conn g, result = .ok conn ∧ ⟨i, .keep key g conn, .kept⟩ ∈ events ∧
        openedBy i events = conn :: closedBy i events
  /-- It gives up only if its cluster was invalidated three times meanwhile. -/
  givesUp (text : String) : task = .done (.error (.internal text)) →
    text = gaveUp key ∧ 3 ≤ events.countP (Event.invalidates key.cluster)

section
variable {p q : Pool (Except BrokerError Connection)} {events : List Event}

theorem left_of_reaches (run : Pool.Reaches p q) (since : q.shared.history = events ++ p.shared.history)
    (begun : p.tasks i = (get key).run) : Frugal (events.filter (·.asker = i)) ∧
      ∀ result, q.tasks i = .done result → Left i key result (events.filter (·.asker = i)) := by
  have nothing : Clean 0 [] [] := ⟨rfl, rfl⟩
  have own : Op.wp (telling Frugal i) (fun conn => Left i key (.ok conn)) (fun e => Left i key (.error e)) (get key) [] :=
    wp_telling_getWithin nothing rfl
  have told : Program.wp (telling Frugal i) (Left i key) (p.tasks i) [] := by
    rw [begun]
    refine Program.wp_mono (fun result events left => ?_) own
    cases result with
    | ok conn => exact left
    | error e => exact left
  obtain ⟨events', history, frugal, left⟩ := run.told (nothing.frugal (Nat.zero_le 3)) told
  obtain rfl : events = events' := List.append_cancel_right (since.symm.trans history)
  refine ⟨frugal, fun result ended => ?_⟩
  rw [ended] at left
  exact left

/-- What comes of getting a connection for a key in a state and those after it. -/
def Fares (key : ConnectionKey) (start : Surroundings) : Except BrokerError Connection → Surroundings → Prop :=
  Op.Ended (fun conn => Remains start key conn)
    (fun e s => ∀ text, e = .internal text → text = gaveUp key ∧ Invalidated start key.cluster 3 s)

theorem lasting_fares (start : Surroundings) (result : Except BrokerError Connection) : Lasting (Fares key start result) := by
  cases result with
  | ok conn => exact lasting_remains start key conn
  | error e =>
    intro s j c r allowed failed text same
    obtain ⟨report, invalidated⟩ := failed text same
    exact ⟨report, lasting_invalidated start key.cluster 3 s j c r allowed invalidated⟩

theorem remains_of_reaches (run : Pool.Reaches p q) (begun : p.tasks i = (get key).run) :
    (∀ conn, q.tasks i = .done (.ok conn) → Remains p.shared key conn q.shared) ∧
      ∀ text, q.tasks i = .done (.error (.internal text)) →
        text = gaveUp key ∧ Invalidated p.shared key.cluster 3 q.shared := by
  have start : Invalidated p.shared key.cluster 0 p.shared := ⟨[], rfl, Nat.zero_le _⟩
  have own : Program.wp (besideAny i) (Fares key p.shared) (p.tasks i) p.shared := by
    rw [begun]
    exact wp_besideAny_getWithin start rfl
  have ended := run.besideAny (lasting_fares p.shared) own
  constructor
  · intro conn done
    rw [done] at ended
    exact ended
  · intro text done
    rw [done] at ended
    exact ended text rfl

/-- However any callers take turns, where some get a connection for one key: each opens three at most, closes those that
    it does not cache and return, and gives up only if its cluster was invalidated three times since. If all of them get
    one and the key was not emptied since, they get one and the same, which is cached, and have closed all others. The
    run may begin right before the first of these callers does, and end right after the last. -/
theorem concurrent_gets {gets : Set Nat} (run : Pool.Reaches p q)
    (since : q.shared.history = events ++ p.shared.history) (begun : ∀ i ∈ gets, p.tasks i = (get key).run) :
    (∀ i ∈ gets, Getting key i events (q.tasks i)) ∧
    ((∀ i ∈ gets, ∃ conn, q.tasks i = .done (.ok conn)) → (∀ e ∈ events, e.empties key = false) → gets.Nonempty →
      ∃ conn, q.shared.broker.cache.get? key = some conn ∧ ∀ i ∈ gets, q.tasks i = .done (.ok conn) ∧
        ∀ other ∈ openedBy i events, other ≠ conn → other ∈ closedBy i events) := by
  have each (i : Nat) (member : i ∈ gets) : Getting key i events (q.tasks i) := by
    obtain ⟨frugal, left⟩ := left_of_reaches run since (begun i member)
    refine ⟨frugal, fun result ended => (left result ended).imp_right ?_, fun text ended => ?_⟩
    · rintro ⟨conn, g, same, kept, rest⟩
      exact ⟨conn, g, same, List.mem_of_mem_filter kept, rest⟩
    · obtain ⟨report, events', history, many⟩ := (remains_of_reaches run (begun i member)).2 text ended
      obtain rfl : events = events' := List.append_cancel_right (since.symm.trans history)
      exact ⟨report, many⟩
  refine ⟨each, fun succeeded full some => ?_⟩
  have cached (i : Nat) (member : i ∈ gets) (conn : Connection) (ended : q.tasks i = .done (.ok conn)) :
      q.shared.broker.cache.get? key = .some conn := by
    obtain ⟨events', history, cached⟩ := (remains_of_reaches run (begun i member)).1 conn ended
    obtain rfl : events = events' := List.append_cancel_right (since.symm.trans history)
    exact cached full
  obtain ⟨first, member⟩ := some
  obtain ⟨conn, ended⟩ := succeeded first member
  refine ⟨conn, cached first member conn ended, fun i member' => ?_⟩
  obtain ⟨conn', ended'⟩ := succeeded i member'
  obtain rfl : conn = conn' :=
    Option.some.inj ((cached first member conn ended).symm.trans (cached i member' conn' ended'))
  refine ⟨ended', fun other opened apart => ?_⟩
  rcases (each i member').closes _ ended' with all | ⟨kept, g, same, -, rest⟩
  · exact all ▸ opened
  · obtain rfl : conn = kept := Except.ok.inj same
    rw [rest] at opened
    exact (List.mem_cons.1 opened).resolve_left apart

end

/-! ### A race, and a caller that gives up -/

open ClusterRecord (exampleRecord)
open CacheTask (exampleValues)
open Command (exampleKey attempt wp_scripted_attempt)

/-- The connections that the callers open, in this order. -/
def raced (serial : Nat) : Connection := ⟨serial, exampleRecord.target .management "app"⟩

/-- Callers 0, 1 and 2 get a connection, and caller 3 invalidates another database three times. -/
def racers : Nat → Program (Except BrokerError Connection)
  | 0 | 1 | 2 => (get exampleKey).run
  | 3 => do
    let _ ← invalidate (.database "main" "other")
    let _ ← invalidate (.database "main" "other")
    let _ ← invalidate (.database "main" "other")
    return .error (.sql .closed)
  | _ => return .error (.sql .closed)

def racing : Pool (Except BrokerError Connection) := ⟨⟨exampleValues, BrokerState.empty, []⟩, racers⟩

/-- Caller 2 is overtaken when it has looked for a connection. -/
def overtaking (generation : Nat) : List Event :=
  (attempt 2 exampleKey exampleRecord generation (raced generation) .superseded).insertIdx 1
      ⟨3, .evict (.database "main" "other"), []⟩ ++
    [⟨2, .close (raced generation), .ok ()⟩]

/-- Caller 1 does all but to offer its connection before caller 0 begins to open one. -/
def race : List Event :=
  ⟨0, .find exampleKey, .missing 3⟩ :: (attempt 1 exampleKey exampleRecord 3 (raced 3) .kept).take 4 ++
    (attempt 0 exampleKey exampleRecord 3 (raced 4) .kept).drop 1 ++
    [⟨1, .keep exampleKey 3 (raced 3), .present (raced 4)⟩, ⟨1, .close (raced 3), .ok ()⟩]

def racedResults : Nat → Except BrokerError Connection
  | 0 | 1 => .ok (raced 4)
  | 2 => .error (.internal (gaveUp exampleKey))
  | _ => .error (.sql .closed)

def raceScript : List Event := overtaking 0 ++ overtaking 1 ++ overtaking 2 ++ race

theorem playable_race : Pool.Playable racing.shared raceScript := by
  have stored : racing.shared.values.get? (StoreKeys.cluster "main") = some exampleRecord.encode :=
    RecordTask.example_cluster
  have fetched : racing.shared.Allows (.fetch (StoreKeys.cluster "main")) (.ok (some exampleRecord.encode)) :=
    Surroundings.allows_fetch stored
  have fresh (s : Surroundings) (n : Nat) (older : ∀ conn ∈ s.opened, conn.serial < n) :
      s.Allows (.connect (raced n).target) (.ok (raced n)) := by
    rintro _ ⟨⟩
    exact ⟨rfl, fun conn member same => absurd (older conn member) (same ▸ Nat.lt_irrefl _)⟩
  refine ⟨rfl, rfl, fetched, fresh _ 0 (by decide), trivial, rfl, trivial, ?_⟩
  refine ⟨rfl, rfl, fetched, fresh _ 1 (by decide), trivial, rfl, trivial, ?_⟩
  refine ⟨rfl, rfl, fetched, fresh _ 2 (by decide), trivial, rfl, trivial, ?_⟩
  refine ⟨rfl, rfl, fetched, fresh _ 3 (by decide), trivial, fetched, fresh _ 4 (by decide), trivial, rfl, rfl, trivial, trivial⟩

theorem wp_scripted_racers (i : Nat) : Program.wp Pool.scripted (fun a rest => a = racedResults i ∧ rest = [])
    (racers i) (raceScript.filter (·.asker = i)) := by
  have leads (serial : Nat) : (raced serial).target =
      exampleRecord.target exampleKey.kind (exampleKey.database.getD exampleRecord.database) := rfl
  match i with
  | 0 => exact Command.wp_scripted_run.2 (Command.wp_scripted_get (leads 4) ⟨rfl, rfl⟩)
  | 1 =>
    have late : Op.wp Pool.scripted (fun conn rest => .ok conn = racedResults 1 ∧ rest = [])
        (fun e rest => .error e = racedResults 1 ∧ rest = []) (get exampleKey) (raceScript.filter (·.asker = 1)) :=
      wp_scripted_attempt (leads 3) ⟨[], rfl, rfl, rfl⟩
    exact Command.wp_scripted_run.2 late
  | 2 =>
    refine Command.wp_scripted_run.2 (wp_scripted_attempt (leads 0) ⟨_, rfl, ?_⟩)
    refine wp_scripted_attempt (leads 1) ⟨_, rfl, wp_scripted_attempt (leads 2) ⟨[], rfl, rfl, rfl⟩⟩
  | 3 => exact ⟨3, [], _, rfl, 3, [], _, rfl, 3, [], _, rfl, rfl, rfl⟩
  | i + 4 =>
    have none : raceScript.filter (·.asker = i + 4) = [] := by
      simp [raceScript, overtaking, race, attempt, RecordTask.readsCluster]
    rw [none]
    exact ⟨rfl, rfl⟩

/-- Of two that race the later one gets the connection of the other and closes its own, and a third has given up. -/
theorem concurrent_gets_raced : ∃ q, Pool.Reaches racing q ∧
    q.tasks 2 = .done (.error (.internal (gaveUp exampleKey))) ∧ Getting exampleKey 2 q.shared.history (q.tasks 2) ∧
    ∃ conn, q.shared.broker.cache.get? exampleKey = some conn ∧ q.tasks 0 = .done (.ok conn) ∧
      q.tasks 1 = .done (.ok conn) ∧ raced 3 ≠ conn ∧ raced 3 ∈ openedBy 1 q.shared.history ∧
      raced 3 ∈ closedBy 1 q.shared.history := by
  obtain ⟨q, reached, ended, played⟩ := Pool.reaches_of_script (p := racing) playable_race wp_scripted_racers
  have since : q.shared.history = q.shared.history ++ racing.shared.history := (List.append_nil _).symm
  have third : ∀ i ∈ ({2} : Set Nat), racing.tasks i = (get exampleKey).run := by
    rintro i rfl
    rfl
  have two : ∀ i ∈ ({0, 1} : Set Nat), racing.tasks i = (get exampleKey).run := by
    rintro i (rfl | rfl) <;> rfl
  have succeeded : ∀ i ∈ ({0, 1} : Set Nat), ∃ conn, q.tasks i = .done (.ok conn) := by
    rintro i (rfl | rfl)
    · exact ⟨_, ended 0⟩
    · exact ⟨_, ended 1⟩
  have full : ∀ e ∈ q.shared.history, e.empties exampleKey = false := by
    rw [played]
    decide +kernel
  have opened : raced 3 ∈ openedBy 1 q.shared.history := by
    rw [played]
    decide +kernel
  obtain ⟨conn, cached, each⟩ := (concurrent_gets reached since two).2 succeeded full ⟨0, .inl rfl⟩
  have other : raced 3 ≠ conn := by
    have same : racedResults 0 = .ok conn := Program.done.inj ((ended 0).symm.trans (each 0 (.inl rfl)).1)
    obtain rfl : raced 4 = conn := Except.ok.inj same
    decide
  exact ⟨q, reached, ended 2, (concurrent_gets reached since third).1 2 rfl, conn, cached, (each 0 (.inl rfl)).1,
    (each 1 (.inr rfl)).1, other, opened, (each 1 (.inr rfl)).2 (raced 3) opened other⟩

end Connections

end LeaseBroker
