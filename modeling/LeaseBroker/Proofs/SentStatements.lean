import LeaseBroker.Proofs.Footprints

/-!
Which statements reach servers, and what the clock shows meanwhile. To get a
connection tells a server nothing and takes no look at the clock. A statement
that is run over a management connection reaches its server once, or fails; it
may be tried again only where the connection was closed before.
-/
namespace LeaseBroker

open Op
open Program (Demands Monotone)
open Surroundings (alone)
open Template (render)

/-- The statement that reached a server. Nothing goes over a connection that is closed. -/
def Event.sent? : Event → Option String
  | ⟨_, .execute _ _, .error .closed⟩ => none
  | ⟨_, .execute _ sql, _⟩ => some sql
  | ⟨_, .run _ _, .error .closed⟩ => none
  | ⟨_, .run _ sql, _⟩ => some sql
  | _ => none

/-- What the clock showed. -/
def Event.shown? : Event → Option Instant
  | ⟨_, .now, t⟩ => some t
  | _ => none

/-- Whether a server is told nothing, the clock is not looked at, and nothing is stored. -/
def Call.silent : Call → Bool
  | execute .. | run .. | now | put .. | delete _ => false
  | _ => true

theorem Call.silent_of_gets (c : Call) (h : c.gets) : c.silent := by cases c <;> first | rfl | cases h

namespace Surroundings

/-- The statements that reached servers, the latest first. -/
def sent (s : Surroundings) : List String := s.history.filterMap Event.sent?

/-- What the clock showed, the latest first. -/
def shown (s : Surroundings) : List Instant := s.history.filterMap Event.shown?

variable {s t u : Surroundings} {i : Nat} {c : Call} {r : c.Answer}

theorem mem_shown {now : Instant} (read : Event.mk i .now now ∈ s.history) : now ∈ s.shown :=
  List.mem_filterMap.2 ⟨_, read, rfl⟩

theorem sent_after : (s.after i c r).sent = (Event.mk i c r).sent?.toList ++ s.sent := by
  unfold sent
  rw [after_history, List.filterMap_cons]
  cases (Event.mk i c r).sent? <;> rfl

theorem shown_after : (s.after i c r).shown = (Event.mk i c r).shown?.toList ++ s.shown := by
  unfold shown
  rw [after_history, List.filterMap_cons]
  cases (Event.mk i c r).shown? <;> rfl

/-- Since `s` these statements were sent, and nothing else: neither was the clock looked at nor was anything stored. -/
structure Sent (statements : List String) (s t : Surroundings) : Prop where
  values : t.values = s.values
  shown : t.shown = s.shown
  sent : t.sent = statements ++ s.sent

theorem Sent.refl (s : Surroundings) : Sent [] s s := ⟨rfl, rfl, rfl⟩

theorem Sent.trans {first second : List String} (h : Sent first s t) (h' : Sent second t u) : Sent (second ++ first) s u :=
  ⟨h'.values.trans h.values, h'.shown.trans h.shown, by rw [h'.sent, h.sent, List.append_assoc]⟩

theorem sent_of_silent (silent : c.silent) : Sent [] s (s.after i c r) := by
  have quiet : (Event.mk i c r).sent? = none ∧ (Event.mk i c r).shown? = none ∧ !c.writes := by
    cases c <;> first | exact ⟨rfl, rfl, rfl⟩ | cases silent
  refine ⟨values_after quiet.2.2, ?_, ?_⟩
  · rw [shown_after, quiet.2.1]
    rfl
  · rw [sent_after, quiet.1]
    rfl

end Surroundings

open Surroundings (Sent sent_of_silent)

variable {α β : Type} {i : Nat} {s : Surroundings}

theorem wp_silent {p : Program α} (h : Program.Only (·.silent) p) :
    Program.wp (alone i) (fun _ t => Sent [] s t) p s := by
  refine Program.wp_of_only (D := alone i) (I := fun t => Sent [] s t) (fun c K t silent before next => ?_) h (.refl s)
  exact Surroundings.alone_iff.2 fun r _ => next r _ (before.trans (sent_of_silent silent))

theorem Op.wp_silent {p : Op α} (h : Op.Only (·.silent) p) :
    Op.wp (alone i) (fun _ t => Sent [] s t) (fun _ t => Sent [] s t) p s := wp_either.2 (LeaseBroker.wp_silent h)

/-- Loading gives what is stored and goes unnoticed. -/
theorem wp_load_silent {decode : String → Except String α} {key : String} (before : Sent [] s t) :
    Op.wp (alone i) (fun a? u => Sent [] s u ∧ Loads decode s.values key a?) (fun _ u => Sent [] s u)
      (loadRecord decode key) t := by
  have silent : Op.Only (·.silent) (loadRecord decode key) := calls_loadRecord rfl
  rw [← before.values]
  exact wp_mono (wp_both (Op.wp_silent silent) wp_loadRecord) (fun _ _ read => ⟨before.trans read.1, read.2.2⟩)
    fun _ _ failed => before.trans failed.1

/-- Work that goes unnoticed may fail. -/
theorem wp_bind_silent {p : Op α} {f : α → Op β} {ok : β → Surroundings → Prop}
    {fail : BrokerError → Surroundings → Prop} {statements : List String} (before : Sent statements s t)
    (silent : Op.Only (·.silent) p) (failing : ∀ e u, Sent statements s u → fail e u)
    (rest : ∀ a u, Sent statements s u → Op.wp (alone i) ok fail (f a) u) : Op.wp (alone i) ok fail (p >>= f) t :=
  wp_seq (Op.wp_silent silent) (fun a u same => rest a u (before.trans same)) fun e u same =>
    failing e u (before.trans same)

namespace Connections

/-- A statement reaches the server when it succeeds, and when it fails it may not have. -/
theorem wp_execute {c : Connection} {sql : String} :
    Program.wp (alone i) (fun r t => (r = .error .closed ∧ Sent [] s t) ∨ (r ≠ .error .closed ∧ Sent [sql] s t))
      (Program.execute c sql) s := by
  refine Surroundings.alone_iff.2 fun r _ => ?_
  have told (same : (Event.mk i (.execute c sql) r).sent? = some sql) : Sent [sql] s (s.after i (.execute c sql) r) := by
    refine ⟨rfl, Surroundings.shown_after, ?_⟩
    rw [Surroundings.sent_after, same]
    rfl
  cases r with
  | ok u => exact .inr ⟨nofun, told rfl⟩
  | error e =>
    cases e with
    | closed => exact .inl ⟨rfl, rfl, Surroundings.shown_after, Surroundings.sent_after⟩
    | _ => exact .inr ⟨nofun, told rfl⟩

/-- A statement on a management connection reaches the server once, or fails and does so at most once. -/
theorem wp_executeManagement {cluster database sql : String} :
    Op.wp (alone i) (fun _ t => Sent [sql] s t) (fun _ t => Sent [] s t ∨ Sent [sql] s t)
      (executeManagement cluster database sql) s := by
  have getting : Op.Only (·.silent) (get (managementKey cluster database)) :=
    Op.only_mono Call.silent_of_gets (gets_getWithin attempts)
  refine wp_onManagement (Sent [] s) (fun _ => Sent [] s) (fun t same => ?_) (fun c t same => ?_) (.refl s)
  · exact wp_mono (Op.wp_silent getting) (fun _ _ => same.trans) fun _ _ later => .inl (same.trans later)
  · refine Program.wp_mono (fun r u ended => ?_) wp_execute
    cases r with
    | ok done => exact same.trans (ended.resolve_left fun none => nomatch none.1).2
    | error e =>
      refine ⟨ended.imp (fun none => same.trans none.2) fun told => same.trans told.2, ?_⟩
      -- Nothing was sent, so the statement may be sent over another connection.
      rintro rfl
      exact same.trans (ended.resolve_right fun other => other.1 rfl).2

end Connections

/-- Statements that all succeed have been sent one after the other. -/
theorem Fleet.wp_runEach_sent {t : Transaction} {bindings : Bindings} (templates : List String) :
    Program.wp (alone i) (fun r u => r = .ok () → Sent (templates.map (render · bindings)).reverse s u)
      (runEach t bindings templates) s := by
  induction templates generalizing s with
  | nil => exact fun _ => .refl s
  | cons template rest ih =>
    refine (Program.wp_bind ..).2 (Surroundings.alone_iff.2 fun r _ => ?_)
    cases r with
    | error e => exact nofun
    | ok done =>
      have told : Sent [render template bindings] s (s.after i (.run t (render template bindings)) (.ok done)) :=
        ⟨rfl, Surroundings.shown_after, Surroundings.sent_after⟩
      show Program.wp (alone i) _ (runEach t bindings rest) _
      refine Program.wp_mono (fun r u later fine => ?_) ih
      rw [List.map_cons, List.reverse_cons]
      exact told.trans (later fine)

end LeaseBroker
