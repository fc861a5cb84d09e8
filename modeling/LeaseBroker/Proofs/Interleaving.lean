import LeaseBroker.Proofs.Requirements
import Mathlib.Logic.Function.Basic
import Mathlib.Logic.Relation

/-!
Any number of programs that run at the same time. The next call may be that of
any caller, so the calls come in every order that keeps the order of each
program. Each program is looked at by itself, with an idea of what the others
may do between its calls. Where every program stays within what all others
expect of it, the whole run does (`safe`).
-/
namespace LeaseBroker

open Program (Demands Monotone wp)

/-- Callers, each with what is left of its program, and what they share. -/
structure Pool (α : Type) where
  shared : Surroundings
  tasks : Nat → Program α

namespace Pool

variable {α : Type}

/-- The pool after a call of caller `i`, of whose program `rest` is left. -/
def after (p : Pool α) (i : Nat) (c : Call) (r : c.Answer) (rest : Program α) : Pool α where
  shared := p.shared.after i c r
  tasks := Function.update p.tasks i rest

theorem tasks_after_self (p : Pool α) (i : Nat) (c : Call) (r : c.Answer) (rest : Program α) :
    (p.after i c r rest).tasks i = rest := Function.update_self ..

theorem tasks_after_of_ne (p : Pool α) {i j : Nat} (h : j ≠ i) (c : Call) (r : c.Answer) (rest : Program α) :
    (p.after i c r rest).tasks j = p.tasks j := Function.update_of_ne h ..

/-- One caller makes its next call. -/
inductive Step : Pool α → Pool α → Prop
  | call {p : Pool α} {i : Nat} {c : Call} {next : c.Answer → Program α} {r : c.Answer}
      (turn : p.tasks i = .call c next) (allowed : p.shared.Allows c r) : Step p (p.after i c r (next r))

/-- Steps of any callers in any order. -/
abbrev Reaches : Pool α → Pool α → Prop := Relation.ReflTransGen Step

/-- Steps that stay within some states. -/
abbrev ReachesWithin (P : Surroundings → Prop) : Pool α → Pool α → Prop :=
  Relation.ReflTransGen fun p q => Step p q ∧ P q.shared

theorem Reaches.within {p q : Pool α} (h : Reaches p q) : ReachesWithin (fun _ => True) p q :=
  Relation.ReflTransGen.mono (fun _ _ step => ⟨step, trivial⟩) _ _ h

theorem ReachesWithin.reaches {P : Surroundings → Prop} {p q : Pool α} (h : ReachesWithin P p q) : Reaches p q :=
  Relation.ReflTransGen.mono (fun _ _ step => step.1) _ _ h

/-- What every call keeps holds all the time. -/
theorem Reaches.keeps {I : Surroundings → Prop} {p q : Pool α} (run : Reaches p q)
    (each : ∀ i c r s, s.Allows c r → I s → I (s.after i c r)) (start : I p.shared) : I q.shared := by
  induction run with
  | refl => exact start
  | tail _ step ih =>
    obtain ⟨-, allowed⟩ := step
    exact each _ _ _ _ allowed ih

/-- Nobody makes calls that its program does not make. -/
theorem Reaches.only {P : Nat → Call → Prop} {p q : Pool α} (run : Reaches p q) (unbegun : p.shared.history = [])
    (each : ∀ i, Program.Only (P i) (p.tasks i)) : ∀ e ∈ q.shared.history, P e.asker e.call := by
  suffices both : (∀ i, Program.Only (P i) (q.tasks i)) ∧ ∀ e ∈ q.shared.history, P e.asker e.call from both.2
  induction run with
  | refl => exact ⟨each, by simp [unbegun]⟩
  | @tail u v _ step ih =>
    obtain ⟨left, made⟩ := ih
    obtain @⟨i, c, next, r, turn, -⟩ := step
    have own := left i
    rw [turn] at own
    refine ⟨fun j => ?_, fun e member => ?_⟩
    · by_cases same : j = i
      · subst same
        rw [tasks_after_self]
        exact own.2 r
      · rw [tasks_after_of_ne u same]
        exact left j
    · rcases List.mem_cons.1 member with rfl | earlier
      · exact own.1
      · exact made e earlier

/-- A caller may make all of its calls while the others wait. -/
theorem reaches_of_runs {p : Pool α} {i : Nat} {a : α} {t : Surroundings}
    (run : Surroundings.Runs i (p.tasks i) p.shared a t) :
    ∃ q, Reaches p q ∧ q.shared = t ∧ q.tasks i = .done a ∧ ∀ j, j ≠ i → q.tasks j = p.tasks j := by
  generalize program : p.tasks i = task at run
  generalize start : p.shared = s at run
  induction run generalizing p with
  | done => exact ⟨p, .refl, start, program, fun _ _ => rfl⟩
  | @call c next s t u r a reply _ ih =>
    obtain ⟨allowed, rfl⟩ := reply
    subst start
    obtain ⟨q, reached, ends, own, others⟩ := ih (p := p.after i c r (next r)) (p.tasks_after_self ..) rfl
    refine ⟨q, .head (.call program allowed) reached, ends, own, fun j other => ?_⟩
    rw [others j other, tasks_after_of_ne p other]

/-! ## Scripts -/

/-- For a program that makes these calls and gets these answers. -/
def scripted : Demands (List Event) := fun c K events => ∃ i r rest, events = ⟨i, c, r⟩ :: rest ∧ K r rest

instance : Monotone scripted where
  mono weaker h :=
    have ⟨i, r, rest, same, wanted⟩ := h
    ⟨i, r, rest, same, weaker r rest wanted⟩

/-- The calls of a script can be answered as it says. -/
def Playable (s : Surroundings) : List Event → Prop
  | [] => True
  | e :: rest => s.Allows e.call e.answer ∧ Playable (s.after e.asker e.call e.answer) rest

/-- The state after a script. -/
def played (s : Surroundings) (events : List Event) : Surroundings :=
  events.foldl (fun s e => s.after e.asker e.call e.answer) s

/-- Every state that a script goes through is among `P`. -/
def Throughout (P : Surroundings → Prop) (s : Surroundings) : List Event → Prop
  | [] => True
  | e :: rest => P (s.after e.asker e.call e.answer) ∧ Throughout P (s.after e.asker e.call e.answer) rest

/-- Where every caller has its part in a script, they reach its end together. -/
theorem reachesWithin_of_script {P : Surroundings → Prop} {p : Pool α} {v : Nat → α} {events : List Event}
    (playable : Playable p.shared events) (stays : Throughout P p.shared events)
    (parts : ∀ i, wp scripted (fun a rest => a = v i ∧ rest = []) (p.tasks i) (events.filter (·.asker = i))) :
    ∃ q, ReachesWithin P p q ∧ (∀ i, q.tasks i = .done (v i)) ∧ q.shared = played p.shared events := by
  induction events generalizing p with
  | nil =>
    refine ⟨p, .refl, fun i => ?_, rfl⟩
    have part := parts i
    cases task : p.tasks i with
    | done a =>
      rw [task] at part
      rw [part.1]
    | call c next =>
      rw [task] at part
      obtain ⟨j, r, rest, ⟨⟩, -⟩ := part
  | cons e rest ih =>
    obtain ⟨i, c, r⟩ := e
    obtain ⟨allowed, playable⟩ := playable
    obtain ⟨inside, stays⟩ := stays
    have part := parts i
    rw [List.filter_cons_of_pos (by simp)] at part
    cases task : p.tasks i with
    | done a =>
      rw [task] at part
      cases part.2
    | call c' next =>
      rw [task] at part
      obtain ⟨j, r', rest', same, part⟩ := part
      cases same
      have rest (j : Nat) : wp scripted (fun a rest => a = v j ∧ rest = []) ((p.after i c r (next r)).tasks j)
          (rest.filter (·.asker = j)) := by
        by_cases own : j = i
        · subst own
          rw [tasks_after_self]
          exact part
        · rw [tasks_after_of_ne p own]
          have other := parts j
          rwa [List.filter_cons_of_neg (by simpa using Ne.symm own)] at other
      obtain ⟨q, run, ends, reached⟩ := ih (p := p.after i c r (next r)) playable stays rest
      exact ⟨q, .head ⟨.call task allowed, inside⟩ run, ends, reached⟩

theorem throughout_any (s : Surroundings) (events : List Event) : Throughout (fun _ => True) s events := by
  induction events generalizing s with
  | nil => trivial
  | cons e rest ih => exact ⟨trivial, ih _⟩

theorem reaches_of_script {p : Pool α} {v : Nat → α} {events : List Event} (playable : Playable p.shared events)
    (parts : ∀ i, wp scripted (fun a rest => a = v i ∧ rest = []) (p.tasks i) (events.filter (·.asker = i))) :
    ∃ q, Reaches p q ∧ (∀ i, q.tasks i = .done (v i)) ∧ q.shared = played p.shared events := by
  obtain ⟨q, run, ended⟩ := reachesWithin_of_script playable (throughout_any _ events) parts
  exact ⟨q, run.reaches, ended⟩

/-- What each of all callers comes to, by what the first two do. -/
def results (first second : α) (others : Nat → α) : Nat → α
  | 0 => first
  | 1 => second
  | i + 2 => others i

/-- Where two callers have their parts in a script and all others have ended, they reach its end together. -/
theorem reachesWithin_of_two {P : Surroundings → Prop} {p : Pool α} {v w : α} {events : List Event}
    (playable : Playable p.shared events) (stays : Throughout P p.shared events)
    (first : wp scripted (fun a rest => a = v ∧ rest = []) (p.tasks 0) (events.filter (·.asker = 0)))
    (second : wp scripted (fun a rest => a = w ∧ rest = []) (p.tasks 1) (events.filter (·.asker = 1)))
    (others : ∀ i, ∃ u, p.tasks (i + 2) = .done u) (two : ∀ e ∈ events, e.asker ≤ 1) :
    ∃ q, ReachesWithin P p q ∧ q.tasks 0 = .done v ∧ q.tasks 1 = .done w ∧ (∀ i, ∃ u, q.tasks i = .done u) ∧
      q.shared = played p.shared events := by
  obtain ⟨u, ended⟩ := Classical.axiomOfChoice others
  have parts (i : Nat) : wp scripted (fun a rest => a = results v w u i ∧ rest = []) (p.tasks i)
      (events.filter (·.asker = i)) := by
    match i with
    | 0 => exact first
    | 1 => exact second
    | i + 2 =>
      rw [ended i]
      refine ⟨rfl, List.filter_eq_nil_iff.2 fun e member => ?_⟩
      have few := two e member
      simp only [decide_eq_true_eq]
      omega
  obtain ⟨q, run, ends, reached⟩ := reachesWithin_of_script playable stays parts
  exact ⟨q, run, ends 0, ends 1, fun i => ⟨_, ends i⟩, reached⟩

/-! ### What has passed -/

theorem playable_append {s : Surroundings} {events events' : List Event} :
    Playable s (events ++ events') ↔ Playable s events ∧ Playable (played s events) events' := by
  induction events generalizing s with
  | nil => exact (iff_of_eq (true_and _)).symm
  | cons e rest ih => exact (and_congr_right fun _ => ih).trans and_assoc.symm

/-- Since `s` these calls were made in this order, each was answered as it could be, and nothing else has happened. -/
structure Passed (events : List Event) (s t : Surroundings) : Prop where
  playable : Playable s events
  reached : played s events = t

namespace Passed

variable {events events' : List Event} {s t u : Surroundings}

theorem refl (s : Surroundings) : Passed [] s s := ⟨trivial, rfl⟩

theorem call {i : Nat} {c : Call} {r : c.Answer} (allowed : s.Allows c r) : Passed [⟨i, c, r⟩] s (s.after i c r) :=
  ⟨⟨allowed, trivial⟩, rfl⟩

theorem trans (h : Passed events s t) (h' : Passed events' t u) : Passed (events ++ events') s u := by
  obtain ⟨playable, rfl⟩ := h
  obtain ⟨playable', rfl⟩ := h'
  exact ⟨playable_append.2 ⟨playable, playable'⟩, List.foldl_append⟩

/-- What has passed can be taken apart again. -/
theorem split (h : Passed (events ++ events') s u) : ∃ t, Passed events s t ∧ Passed events' t u := by
  obtain ⟨playable, rfl⟩ := h
  obtain ⟨first, second⟩ := playable_append.1 playable
  exact ⟨played s events, ⟨first, rfl⟩, second, List.foldl_append.symm⟩

theorem cons {e : Event} (h : Passed (e :: events) s u) :
    s.Allows e.call e.answer ∧ Passed events (s.after e.asker e.call e.answer) u :=
  ⟨h.playable.1, h.playable.2, h.reached⟩

/-- What each call keeps holds when they have passed. -/
theorem keeps {I : Surroundings → Prop} (h : Passed events s t)
    (each : ∀ e ∈ events, ∀ s, s.Allows e.call e.answer → I s → I (s.after e.asker e.call e.answer)) (start : I s) :
    I t := by
  induction events generalizing s with
  | nil =>
    obtain ⟨-, rfl⟩ := h
    exact start
  | cons e rest ih =>
    obtain ⟨allowed, later⟩ := h.cons
    exact ih later (fun e' member => each e' (List.mem_cons_of_mem _ member)) (each e List.mem_cons_self s allowed start)

theorem history (h : Passed events s t) : t.history = events.reverse ++ s.history := by
  obtain ⟨-, rfl⟩ := h
  induction events generalizing s with
  | nil => rfl
  | cons e rest ih =>
    rw [List.reverse_cons, List.append_assoc]
    exact ih

end Passed

/-- Of two different calls one came before the other. -/
theorem earlier_or_later {e e' : Event} {after after' before before' : List Event} (other : e ≠ e')
    (same : after ++ e :: before = after' ++ e' :: before') :
    (∃ between, after' = after ++ e :: between ∧ before = between ++ e' :: before') ∨
      ∃ between, after = after' ++ e' :: between ∧ before' = between ++ e :: before := by
  rcases List.append_eq_append_iff.1 same with ⟨rest, longer, left⟩ | ⟨rest, longer, left⟩
  · cases rest with
    | nil => exact absurd (List.cons.inj left).1 other
    | cons first between =>
      obtain ⟨rfl, rest⟩ := List.cons.inj left
      exact .inl ⟨between, longer, rest⟩
  · cases rest with
    | nil => exact absurd (List.cons.inj left).1.symm other
    | cons first between =>
      obtain ⟨rfl, rest⟩ := List.cons.inj left
      exact .inr ⟨between, longer, rest⟩

/-- Only others than caller `i` have made calls. -/
def Elsewhere (i : Nat) (s t : Surroundings) : Prop := ∃ events, Passed events s t ∧ ∀ e ∈ events, e.asker ≠ i

namespace Elsewhere

variable {i : Nat} {s t u : Surroundings}

theorem refl (s : Surroundings) : Elsewhere i s s := ⟨[], .refl s, by simp⟩

theorem trans (h : Elsewhere i s t) (h' : Elsewhere i t u) : Elsewhere i s u := by
  obtain ⟨events, passed, others⟩ := h
  obtain ⟨events', passed', others'⟩ := h'
  exact ⟨events ++ events', passed.trans passed', fun e member => (List.mem_append.1 member).elim (others e) (others' e)⟩

theorem call {j : Nat} (other : j ≠ i) {c : Call} {r : c.Answer} (allowed : s.Allows c r) :
    Elsewhere i s (s.after j c r) := by
  refine ⟨_, .call allowed, fun e member => ?_⟩
  obtain rfl := List.mem_singleton.1 member
  exact other

/-- What has happened stays in the history. -/
theorem grown (h : Elsewhere i s t) : s.history <:+ t.history := by
  obtain ⟨events, passed, -⟩ := h
  exact ⟨events.reverse, passed.history.symm⟩

end Elsewhere

/-! ## Programs among others -/

/-- For a program of caller `i` among others, in a run that stays within `P`: before each of its calls the others may
    have moved the state along `M i`, and its call moves it along the relations of all others. All of them keep `I`. -/
def amid (P I : Surroundings → Prop) (M : Nat → Surroundings → Surroundings → Prop) (i : Nat) : Demands Surroundings :=
  fun c K s => ∀ t, I t → M i s t → ∀ r, t.Allows c r → P (t.after i c r) →
    I (t.after i c r) ∧ (∀ j, j ≠ i → M j t (t.after i c r)) ∧ K r (t.after i c r)

instance (P I : Surroundings → Prop) (M : Nat → Surroundings → Surroundings → Prop) (i : Nat) :
    Monotone (amid P I M i) where
  mono weaker h t inside moved r allowed stays :=
    have ⟨keeps, moves, wanted⟩ := h t inside moved r allowed stays
    ⟨keeps, moves, weaker r _ wanted⟩

section
variable {P I : Surroundings → Prop} {M : Nat → Surroundings → Surroundings → Prop}
  {Q : Nat → α → Surroundings → Prop} {p q : Pool α}

/-- What a program among others needs is not lost by what they do meanwhile. -/
theorem wp_amid_moved (trans : ∀ i s t u, M i s t → M i t u → M i s u)
    (stable : ∀ i a s t, M i s t → Q i a s → Q i a t) {i : Nat} {task : Program α} {s t : Surroundings}
    (h : wp (amid P I M i) (Q i) task s) (moved : M i s t) : wp (amid P I M i) (Q i) task t := by
  cases task with
  | done a => exact stable i a s t moved h
  | call c next => exact fun u inside later => h u inside (trans i s t u moved later)

/-- If every program does its part, the whole run keeps `I`, and every program that ends has ended as it should. -/
theorem ReachesWithin.safe (refl : ∀ i s, M i s s) (trans : ∀ i s t u, M i s t → M i t u → M i s u)
    (stable : ∀ i a s t, M i s t → Q i a s → Q i a t) (run : ReachesWithin P p q) (inside : I p.shared)
    (each : ∀ i, wp (amid P I M i) (Q i) (p.tasks i) p.shared) :
    I q.shared ∧ ∀ i, wp (amid P I M i) (Q i) (q.tasks i) q.shared := by
  induction run with
  | refl => exact ⟨inside, each⟩
  | @tail u v _ step ih =>
    obtain ⟨inside, each⟩ := ih
    obtain ⟨step, stays⟩ := step
    obtain @⟨i, c, next, r, turn, allowed⟩ := step
    have own := each i
    rw [turn] at own
    obtain ⟨keeps, moves, wanted⟩ := own u.shared inside (refl i _) r allowed stays
    refine ⟨keeps, fun j => ?_⟩
    by_cases same : j = i
    · subst same
      rw [tasks_after_self]
      exact wanted
    · rw [tasks_after_of_ne u same]
      exact wp_amid_moved trans stable (each j) (moves j same)

/-- If the others do their part, one program has ended as it should. -/
theorem ReachesWithin.safe_own {Q : α → Surroundings → Prop} {i : Nat} (refl : ∀ i s, M i s s)
    (trans : ∀ i s t u, M i s t → M i t u → M i s u) (stable : ∀ a s t, M i s t → Q a s → Q a t)
    (run : ReachesWithin P p q) (inside : I p.shared) (own : wp (amid P I M i) Q (p.tasks i) p.shared)
    (others : ∀ j, wp (amid P I M j) (fun _ _ => True) (p.tasks j) p.shared) :
    I q.shared ∧ wp (amid P I M i) Q (q.tasks i) q.shared := by
  have each (j : Nat) : wp (amid P I M j) (fun a t => j = i → Q a t) (p.tasks j) p.shared := by
    by_cases same : j = i
    · subst same
      exact Program.wp_mono (fun _ _ ended _ => ended) own
    · exact Program.wp_mono (fun _ _ _ same' => absurd same' same) (others j)
  have lasts (j : Nat) (a : α) (s t : Surroundings) (moved : M j s t) (ended : j = i → Q a s) : j = i → Q a t := by
    rintro rfl
    exact stable a s t moved (ended rfl)
  obtain ⟨later, ends⟩ := run.safe refl trans lasts inside each
  exact ⟨later, Program.wp_mono (fun _ _ ended => ended rfl) (ends i)⟩

end

end Pool

end LeaseBroker
