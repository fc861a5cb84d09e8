import LeaseBroker.Proofs.Footprints

/-!
What operations do on servers, in its order: the statements, and how transactions
begin and end. To read records, to get a connection or to draw something random is
none of that (`Call.harmless`). What was done since a state, and nothing else, is a
list of deeds (`Done`), and lists are put together as programs are
(`Done.trans`). A transaction on a management connection begins once or not at
all, however often connections were closed before (`wp_startManagement_begun`).
-/
namespace LeaseBroker

open Op
open Surroundings (alone)
open Template (render)

/-- What was done on a server, and how the server answered. -/
inductive Deed where
  /-- A statement outside of transactions. -/
  | executed (c : Connection) (sql : String) (r : Except SqlError Unit)
  | began (t : Transaction)
  | ran (t : Transaction) (sql : String) (r : Except SqlError Unit)
  | committed (t : Transaction) (r : Except SqlError Unit)
  | rolledBack (t : Transaction) (r : Except SqlError Unit)

namespace Event

/-- A transaction that did not begin was no deed. -/
def deed? : Event → Option Deed
  | ⟨_, .execute c sql, r⟩ => some (.executed c sql r)
  | ⟨_, .start _, .ok t⟩ => some (.began t)
  | ⟨_, .run t sql, r⟩ => some (.ran t sql r)
  | ⟨_, .commit t, r⟩ => some (.committed t r)
  | ⟨_, .rollback t, r⟩ => some (.rolledBack t r)
  | _ => none

theorem call_of_ran {e : Event} {t : Transaction} {sql : String} {r : Except SqlError Unit}
    (h : e.deed? = some (.ran t sql r)) : e.call = .run t sql := by
  unfold deed? at h
  split at h <;> cases h
  rfl

end Event

/-- The transaction that was begun. -/
def Deed.begun? : Deed → Option Transaction
  | began t => some t
  | _ => none

/-- How many credentials were issued, renewed and revoked. -/
structure Counts where
  issued : Series
  renewed : Series
  revoked : Series

namespace Call

/-- Whether the call does nothing on a server, stores nothing and counts no credential. -/
def harmless : Call → Bool
  | execute .. | start _ | run .. | commit _ | rollback _ | put .. | delete _ => false
  | tally .issued | tally .renewed | tally .revoked => false
  | _ => true

end Call

namespace Surroundings

/-- What was done on servers, the latest first. -/
def deeds (s : Surroundings) : List Deed := s.history.filterMap Event.deed?

def counts (s : Surroundings) : Counts :=
  ⟨s.broker.metrics.issued, s.broker.metrics.renewed, s.broker.metrics.revoked⟩

variable {s t u : Surroundings} {i : Nat} {c : Call} {r : c.Answer} {d : Deed} {ds ds' : List Deed}

/-- Which transactions were begun can be seen from the deeds. -/
theorem begun_eq (s : Surroundings) : s.begun = s.deeds.filterMap Deed.begun? := by
  unfold begun deeds
  rw [List.filterMap_filterMap]
  refine congrArg (List.filterMap · s.history) (funext fun ⟨i, c, r⟩ => ?_)
  cases c with
  | start c => cases r <;> rfl
  | _ => rfl

theorem deeds_after : (s.after i c r).deeds = (Event.mk i c r).deed?.toList ++ s.deeds := by
  unfold deeds
  rw [after_history, List.filterMap_cons]
  cases (Event.mk i c r).deed? <;> rfl

/-- Since `s` these were done, in this order, and nothing else: nothing was stored, and no credential was counted. -/
structure Done (deeds : List Deed) (s t : Surroundings) : Prop where
  values : t.values = s.values
  counts : t.counts = s.counts
  deeds : t.deeds = deeds.reverse ++ s.deeds

namespace Done

theorem refl (s : Surroundings) : Done [] s s := ⟨rfl, rfl, rfl⟩

theorem trans (h : Done ds s t) (h' : Done ds' t u) : Done (ds ++ ds') s u :=
  ⟨h'.values.trans h.values, h'.counts.trans h.counts,
    by rw [h'.deeds, h.deeds, List.reverse_append, List.append_assoc]⟩

theorem of_untouched (h : Untouched s t) : Done [] s t := by
  have heard (u : Surroundings) : u.deeds = u.heard.filterMap Event.deed? := by
    unfold Surroundings.deeds Surroundings.heard
    rw [List.filterMap_filter]
    refine congrArg (List.filterMap · u.history) (funext fun ⟨i, c, r⟩ => ?_)
    cases c <;> rfl
  exact ⟨h.values, by unfold Surroundings.counts; rw [h.broker], by rw [heard, heard, h.heard]; rfl⟩

theorem begun (h : Done ds s t) : t.begun = (ds.filterMap Deed.begun?).reverse ++ s.begun := by
  rw [begun_eq, begun_eq, h.deeds, List.filterMap_append, List.filterMap_reverse]

end Done

theorem done_of_harmless (harmless : c.harmless) : Done [] s (s.after i c r) := by
  have nothing : (Event.mk i c r).deed? = none := by cases c <;> first | rfl | cases harmless
  refine ⟨?_, ?_, by rw [deeds_after, nothing]; rfl⟩
  · cases c <;> first | rfl | cases harmless
  · cases c with
    | tally what => cases what <;> first | rfl | cases harmless
    | keep key generation c =>
      show Surroundings.counts ⟨_, (s.broker.keep key generation c).2, _⟩ = _
      unfold counts BrokerState.keep
      split <;> rfl
    | _ => rfl

/-- Whatever is done on a server is noted, and nothing but that. -/
theorem done_of_deed (found : (Event.mk i c r).deed? = some d) : Done [d] s (s.after i c r) := by
  refine ⟨?_, ?_, by rw [deeds_after, found]; rfl⟩
  · cases c <;> first | rfl | cases found
  · cases c <;> first | rfl | cases found

end Surroundings

open Surroundings (Done done_of_harmless done_of_deed)

variable {α β : Type} {i : Nat} {s : Surroundings}

theorem wp_harmless {p : Program α} (h : Program.Only (·.harmless) p) : Program.wp (alone i) (fun _ t => Done [] s t) p s := by
  refine Program.wp_of_only (D := alone i) (I := fun t => Done [] s t) (fun c K t harmless before next => ?_) h (.refl s)
  exact Surroundings.alone_iff.2 fun r _ => next r _ (before.trans (done_of_harmless harmless))

theorem Op.wp_harmless {p : Op α} (h : Op.Only (·.harmless) p) :
    Op.wp (alone i) (fun _ t => Done [] s t) (fun _ t => Done [] s t) p s := wp_either.2 (LeaseBroker.wp_harmless h)

namespace Connections

theorem harmless_getWithin {key : ConnectionKey} (more : Nat) : Op.Only (·.harmless) (getWithin key more) :=
  calls_getWithin (P := (·.harmless)) rfl rfl (fun _ => rfl) rfl (fun _ _ => rfl) (fun _ => rfl) more

theorem wp_start {c : Connection} :
    Program.wp (alone i) (fun r t => (∀ tr, r = .ok tr → Done [.began tr] s t) ∧ ∀ e, r = .error e → Done [] s t)
      (Program.start c) s := by
  refine Surroundings.alone_iff.2 fun r _ => ?_
  cases r with
  | ok tr =>
    refine ⟨?_, nofun⟩
    rintro _ ⟨⟩
    exact done_of_deed rfl
  | error e => exact ⟨nofun, fun _ _ => ⟨rfl, rfl, Surroundings.deeds_after⟩⟩

/-- A transaction on a management connection is begun once, or nothing was done. -/
theorem wp_startManagement_begun {cluster database : String} :
    Op.wp (alone i) (fun tr t => Done [.began tr] s t) (fun _ t => Done [] s t) (startManagement cluster database) s := by
  refine wp_onManagement (Done [] s) (fun _ => Done [] s) (fun t same => ?_) (fun c t same => ?_) (.refl s)
  · exact wp_mono (Op.wp_harmless (harmless_getWithin attempts)) (fun _ _ => same.trans) fun _ _ => same.trans
  · refine Program.wp_mono (fun r u started => ?_) wp_start
    cases r with
    | ok tr => exact same.trans (started.1 tr rfl)
    | error e =>
      have nothing : Done [] s u := same.trans (started.2 e rfl)
      exact ⟨nothing, fun _ => nothing⟩

end Connections

/-- A statement in a transaction. -/
theorem wp_within {tr : Transaction} {sql : String} :
    Program.wp (alone i) (fun r t => Done [.ran tr sql r] s t) (Program.within tr sql) s :=
  Surroundings.alone_iff.2 fun _ _ => done_of_deed rfl

/-- How statements end that run one after the other until one fails. -/
inductive Ran (tr : Transaction) : List String → Except SqlError Unit → List Deed → Prop
  | all (statements : List String) : Ran tr statements (.ok ()) (statements.map (.ran tr · (.ok ())))
  | failed (before : List String) (sql : String) (rest : List String) (e : SqlError) :
      Ran tr (before ++ sql :: rest) (.error e) (before.map (.ran tr · (.ok ())) ++ [.ran tr sql (.error e)])

theorem Ran.cons {tr : Transaction} {statements : List String} {r : Except SqlError Unit} {deeds : List Deed}
    (h : Ran tr statements r deeds) (sql : String) : Ran tr (sql :: statements) r (.ran tr sql (.ok ()) :: deeds) := by
  cases h with
  | all => exact .all (sql :: statements)
  | failed before last rest e => exact .failed (sql :: before) last rest e

theorem Fleet.wp_runEach_ran {tr : Transaction} {bindings : Bindings} (templates : List String) :
    Program.wp (alone i) (fun r t => ∃ deeds, Ran tr (templates.map (render · bindings)) r deeds ∧ Done deeds s t)
      (runEach tr bindings templates) s := by
  induction templates generalizing s with
  | nil => exact ⟨[], .all [], .refl s⟩
  | cons template rest ih =>
    refine Program.wp_seq wp_within fun r t told => ?_
    cases r with
    | ok done =>
      refine Program.wp_mono (fun r u ended => ?_) ih
      obtain ⟨deeds, ran, later⟩ := ended
      exact ⟨_, ran.cons _, told.trans later⟩
    | error e => exact ⟨_, .failed [] _ _ e, told⟩

/-! ## Where servers can be reached -/

namespace Surroundings

/-- Replies to caller `i`, with nothing in between, by a store that can be read and servers that can be reached. -/
structure Reachable (i : Nat) (R : Program.Replies Surroundings) : Prop where
  answered {c : Call} {s t : Surroundings} {r : c.Answer} (reply : R c s r t) : Answered i c s r t
  fetched {key : String} {s t : Surroundings} {r : Except StoreError (Option String)} (reply : R (.fetch key) s r t) :
    ∃ text?, r = .ok text?
  connected {target : Target} {s t : Surroundings} {r : Except SqlError Connection} (reply : R (.connect target) s r t) :
    ∃ c, r = .ok c

end Surroundings

section Reachable
variable {R : Program.Replies Surroundings} (reachable : Surroundings.Reachable i R)
include reachable

/-- What holds whatever the answers are. -/
theorem Surroundings.Reachable.wp {Q : α → Surroundings → Prop} {p : Program α} (h : Program.wp (alone i) Q p s) :
    Program.wp (Program.demonic R) Q p s := Program.wp_demonic_narrower (fun _ _ _ _ => reachable.answered) h

theorem Surroundings.Reachable.call {c : Call} {K : c.Answer → Surroundings → Prop}
    (h : ∀ r, s.Allows c r → R c s r (s.after i c r) → K r (s.after i c r)) : Program.demonic R c K s := by
  intro r t reply
  obtain ⟨allowed, rfl⟩ := reachable.answered reply
  exact h r allowed reply

/-- What the replies say of every single deed holds of all that was done. -/
theorem Surroundings.Reachable.deeds {P : Deed → Prop} {p : Program α} {a : α} {t : Surroundings}
    (each : ∀ c s r t, R c s r t → ∀ d, (Event.mk i c r).deed? = some d → P d) (run : Program.Runs R p s a t) :
    ∃ ds, t.deeds = ds ++ s.deeds ∧ ∀ d ∈ ds, P d := by
  induction run with
  | done => exact ⟨[], rfl, nofun⟩
  | @call c next s u v r a reply rest ih =>
    obtain ⟨ds, later, all⟩ := ih
    obtain ⟨-, rfl⟩ := reachable.answered reply
    refine ⟨ds ++ (Event.mk i c r).deed?.toList, by rw [later, Surroundings.deeds_after, List.append_assoc], ?_⟩
    intro d member
    rcases List.mem_append.1 member with later | first
    · exact all d later
    · exact each c s r _ reply d (Option.mem_toList.1 first)

/-- What can be read is read. -/
theorem wp_load_reachable {decode : String → Except String α} {key : String} {a? : Option α} {f : Option α → Op β}
    {ok : β → Surroundings → Prop} {fail : BrokerError → Surroundings → Prop}
    (loads : Loads decode s.values key a?) (rest : ∀ t, s.Untouched t → Op.wp (Program.demonic R) ok fail (f a?) t) :
    Op.wp (Program.demonic R) ok fail (loadRecord decode key >>= f) s := by
  refine wp_load (reachable.call fun r given reply => ?_)
  obtain ⟨text?, rfl⟩ := reachable.fetched reply
  obtain rfl : text? = s.values.get? key := Surroundings.eq_of_gives given
  exact ⟨_, a?, rfl, loads, rest _ (Surroundings.untouched_after rfl)⟩

namespace Connections

theorem wp_openUncached_reachable {cluster : ClusterRecord} {kind : LoginKind} {database : String} :
    Op.wp (Program.demonic R) (fun _ t => t.broker.cache = s.broker.cache ∧ Done [] s t) (fun _ _ => False)
      (openUncached cluster kind database) s := by
  refine (wp_bind_ofSql ..).2 (reachable.call fun r _ reply => ?_)
  obtain ⟨c, rfl⟩ := reachable.connected reply
  refine (wp_bind_lift ..).2 (reachable.call fun _ _ _ => ?_)
  exact ⟨rfl, (done_of_harmless rfl).trans (done_of_harmless rfl)⟩

/-- A connection to a registered cluster is got. Nothing comes in between, so a new one is kept. -/
theorem wp_get_reachable {key : ConnectionKey} {record : ClusterRecord}
    (loads : Loads ClusterRecord.decode s.values (StoreKeys.cluster key.cluster) (some record)) :
    Op.wp (Program.demonic R) (fun _ t => Done [] s t) (fun _ _ => False) (get key) s := by
  refine (wp_bind_lift ..).2 (reachable.call fun looked given _ => ?_)
  have sought : Done [] s (s.after i (.find key) looked) := done_of_harmless rfl
  cases looked with
  | cached c => exact sought
  | missing g =>
    refine wp_load_reachable reachable loads fun t same => ?_
    refine wp_seq (wp_openUncached_reachable reachable) (fun c u opened => ?_) fun _ _ => False.elim
    refine (wp_bind_lift ..).2 (reachable.call fun placed placing _ => ?_)
    have missing : u.broker.cache.find key = .missing g := by rw [opened.1, same.broker]; exact given.symm
    obtain rfl : placed = .kept :=
      placing.trans ((BrokerState.placement_keep ..).trans (congrArg Prod.fst (ConnectionCache.keep_of_missing missing c)))
    exact (sought.trans (.of_untouched same)).trans (opened.2.trans (done_of_harmless rfl))

end Connections

end Reachable

end LeaseBroker
