import LeaseBroker.ConnectionCache
import LeaseBroker.MemoryStore
import LeaseBroker.Program

/-!
What programs meet while they run: the values of the store, the state of the
broker, and the history of all calls with their answers. Nothing is known of a
store or a server beyond this: a store that answers gives what was put into it,
a connection is new and leads to its target, and everything may fail at any
time. The state of the broker is its own and always answers.
-/
namespace LeaseBroker

/-- A call, who made it, and how it was answered. -/
structure Event where
  asker : Nat
  call : Call
  answer : call.Answer

namespace Event

/-- The connection that was opened. -/
def opened? : Event → Option Connection
  | ⟨_, .connect _, .ok c⟩ => some c
  | _ => none

/-- The transaction that was begun. -/
def begun? : Event → Option Transaction
  | ⟨_, .start _, .ok t⟩ => some t
  | _ => none

/-- What the broker counts on account of a call. -/
def tallies : Event → List Tally
  | ⟨_, .tally what, _⟩ => [what]
  | ⟨_, .keep _ _ _, .kept⟩ => [.cached]
  | _ => []

/-- What the call left under a key: a value, or nothing where it deleted one. -/
def left? (key : String) : Event → Option (Option String)
  | ⟨_, .put k v, .ok _⟩ => if k = key then some (some v) else none
  | ⟨_, .delete k, .ok _⟩ => if k = key then some none else none
  | _ => none

end Event

/-- The metrics after some events, the latest first. -/
def Metrics.counted (m : Metrics) (events : List Event) : Metrics :=
  events.foldr (fun e m => e.tallies.foldl Metrics.tally m) m

namespace Call

/-- Whether the call goes to a server. -/
def toServer : Call → Bool
  | connect _ | execute .. | start _ | close _ | run .. | commit _ | rollback _ => true
  | _ => false

/-- Whether the call asks for something and changes nothing. -/
def quiet : Call → Bool
  | fetch _ | list _ | find _ | metrics | uuid | password | now => true
  | _ => false

/-- Whether the call changes the store. -/
def writes : Call → Bool
  | put .. | delete _ => true
  | _ => false

/-- Whether the call puts a connection into the cache. -/
def keeps : Call → Bool
  | keep .. => true
  | _ => false

/-- The values of the store after the call. -/
def valuesAfter (values : Table String) : (c : Call) → c.Answer → Table String
  | put key value, .ok _ => values.insert key value
  | delete key, .ok _ => values.erase key
  | _, _ => values

/-- The state of the broker after the call. -/
def brokerAfter (b : BrokerState) : Call → BrokerState
  | keep key generation c => (b.keep key generation c).2
  | evict what => (b.evict what).2
  | tally what => b.tally what
  | _ => b

end Call

/-- All that operations share, and the history of their calls, the latest first. -/
structure Surroundings where
  values : Table String
  broker : BrokerState
  history : List Event

namespace Surroundings

/-- Nothing was stored or cached, and nothing has happened. -/
def blank : Surroundings := ⟨Table.empty, BrokerState.empty, []⟩

/-- All connections that were ever opened. -/
def opened (s : Surroundings) : List Connection := s.history.filterMap Event.opened?

/-- All transactions that were ever begun. -/
def begun (s : Surroundings) : List Transaction := s.history.filterMap Event.begun?

/-- What servers were told, the latest first. -/
def heard (s : Surroundings) : List Event := s.history.filter (·.call.toServer)

def after (s : Surroundings) (asker : Nat) (c : Call) (r : c.Answer) : Surroundings where
  values := c.valuesAfter s.values r
  broker := c.brokerAfter s.broker
  history := ⟨asker, c, r⟩ :: s.history

/-- An answer that is `a` unless it is a failure. -/
def Gives {ε α : Type} (a : α) (r : Except ε α) : Prop := ∀ b, r = .ok b → b = a

/-- The answers that a call may get. -/
def Allows (s : Surroundings) : (c : Call) → c.Answer → Prop
  | .fetch key, r => Gives (s.values.get? key) r
  | .list above, r => Gives (MemoryStore.children s.values above) r
  | .connect t, r => ∀ c, r = .ok c → c.target = t ∧ ∀ d ∈ s.opened, d.serial ≠ c.serial
  | .start c, r => ∀ t, r = .ok t → t.connection = c ∧ ∀ u ∈ s.begun, u.serial ≠ t.serial
  | .find key, r => r = s.broker.cache.find key
  | .keep key generation c, r => r = (s.broker.keep key generation c).1
  | .evict what, r => r = (s.broker.evict what).1
  | .metrics, r => r = s.broker.metrics
  | _, _ => True

/-- There is an answer to every call, if only that it has failed. -/
theorem exists_allowed (s : Surroundings) (c : Call) : ∃ r, s.Allows c r := by
  cases c with
  | fetch key => exact ⟨.error (.backend ""), nofun⟩
  | list above => exact ⟨.error (.backend ""), nofun⟩
  | put key value => exact ⟨.ok (), trivial⟩
  | delete key => exact ⟨.ok (), trivial⟩
  | connect target => exact ⟨.error .closed, nofun⟩
  | start connection => exact ⟨.error .closed, nofun⟩
  | tally what => exact ⟨(), trivial⟩
  | uuid => exact ⟨(0 : Uuid), trivial⟩
  | password => exact ⟨"", trivial⟩
  | now => exact ⟨(⟨0, 0, by decide, by decide⟩ : Instant), trivial⟩
  | find | keep | evict | metrics => exact ⟨_, rfl⟩
  | _ => exact ⟨.ok (), trivial⟩

theorem gives_self {ε α : Type} (a : α) : Gives a (.ok a : Except ε α) := fun _ h => (Except.ok.inj h).symm

theorem eq_of_gives {ε α : Type} {a b : α} (h : Gives a (.ok b : Except ε α)) : b = a := h b rfl

theorem allows_fetch {s : Surroundings} {key : String} {text? : Option String} (stored : s.values.get? key = text?) :
    s.Allows (.fetch key) (.ok text?) := by
  subst stored
  exact gives_self _

@[simp] theorem after_history (s : Surroundings) (i : Nat) (c : Call) (r : c.Answer) :
    (s.after i c r).history = ⟨i, c, r⟩ :: s.history := rfl

theorem opened_after (s : Surroundings) (i : Nat) (c : Call) (r : c.Answer) :
    (s.after i c r).opened = (Event.opened? ⟨i, c, r⟩).toList ++ s.opened := by
  cases found : Event.opened? ⟨i, c, r⟩ <;> simp [opened, found]

theorem begun_after (s : Surroundings) (i : Nat) (c : Call) (r : c.Answer) :
    (s.after i c r).begun = (Event.begun? ⟨i, c, r⟩).toList ++ s.begun := by
  cases found : Event.begun? ⟨i, c, r⟩ <;> simp [begun, found]

theorem get?_after (s : Surroundings) (i : Nat) (c : Call) (r : c.Answer) (key : String) :
    (s.after i c r).values.get? key = ((Event.mk i c r).left? key).getD (s.values.get? key) := by
  cases c with
  | put k v =>
    cases r with
    | error e => rfl
    | ok u =>
      show (s.values.insert k v).get? key = _
      rw [Table.get?_insert]
      by_cases h : k = key
      · simp [Event.left?, h]
      · simp [Event.left?, h, Ne.symm h]
  | delete k =>
    cases r with
    | error e => rfl
    | ok u =>
      show (s.values.erase k).get? key = _
      rw [Table.get?_erase]
      by_cases h : k = key
      · simp [Event.left?, h]
      · simp [Event.left?, h, Ne.symm h]
  | _ => rfl

theorem metrics_after {s : Surroundings} {i : Nat} {c : Call} {r : c.Answer} (allowed : s.Allows c r) :
    (s.after i c r).broker.metrics = s.broker.metrics.counted [⟨i, c, r⟩] := by
  cases c with
  | keep key generation conn =>
    obtain rfl : r = (s.broker.keep key generation conn).1 := allowed
    show (s.broker.keep key generation conn).2.metrics = _
    unfold BrokerState.keep
    rcases s.broker.cache.keep key generation conn with ⟨placement, cache⟩
    cases placement <;> rfl
  | _ => rfl

/-- Nothing was stored, cached, counted or sent to a server. -/
structure Untouched (s t : Surroundings) : Prop where
  values : t.values = s.values
  broker : t.broker = s.broker
  heard : t.heard = s.heard

theorem Untouched.refl (s : Surroundings) : Untouched s s := ⟨rfl, rfl, rfl⟩

theorem Untouched.trans {s t u : Surroundings} (h : Untouched s t) (h' : Untouched t u) : Untouched s u :=
  ⟨h'.values.trans h.values, h'.broker.trans h.broker, h'.heard.trans h.heard⟩

theorem untouched_after {s : Surroundings} {i : Nat} {c : Call} {r : c.Answer} (quiet : c.quiet) :
    Untouched s (s.after i c r) := by
  cases c <;> first | exact ⟨rfl, rfl, rfl⟩ | cases quiet

theorem values_after {s : Surroundings} {i : Nat} {c : Call} {r : c.Answer} (notWritten : !c.writes) :
    (s.after i c r).values = s.values := by
  cases c <;> first | rfl | cases notWritten

/-- There is always a serial number that was not used yet. -/
theorem exists_unused {α : Type} (serial : α → Nat) (used : List α) : ∃ n, ∀ a ∈ used, serial a ≠ n := by
  have bounded : ∃ n, ∀ a ∈ used, serial a < n := by
    induction used with
    | nil => exact ⟨0, nofun⟩
    | cons a rest ih =>
      obtain ⟨n, below⟩ := ih
      refine ⟨max n (serial a + 1), fun b member => ?_⟩
      rcases List.mem_cons.1 member with rfl | later
      · omega
      · have := below b later
        omega
  obtain ⟨n, below⟩ := bounded
  exact ⟨n, fun a member => Nat.ne_of_lt (below a member)⟩

end Surroundings

end LeaseBroker
