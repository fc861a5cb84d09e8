import LeaseBroker.Proofs.ExactListings
import LeaseBroker.Proofs.ForeignCalls
import Mathlib.Data.List.Sort

/-!
Clusters do not meet. What a host asks for about other clusters leaves all that
is stored and cached for a cluster as it was (`Kept`), and does not see it
either: from two states that differ in that alone it makes the same calls, gets
the same answers and does the same to all else (`Alike`). Both are so for one
call that is foreign to the cluster, and so for a program of such calls. Only the
lists of all clusters and the metrics can tell.
-/
namespace LeaseBroker

open Op
open Surroundings (Runs Answered)

variable {α : Type} {c name : String} {i : Nat} {s s' t t' u : Surroundings} {call : Call}

/-! ## What is left alone -/

/-- A call that changes nothing of what is stored and cached for a cluster. -/
def Call.Avoids (cluster : String) : Call → Prop
  | put key _ => ¬Belongs cluster key
  | delete key => ¬Belongs cluster key
  | keep key _ _ => key.cluster ≠ cluster
  | evict (.cluster name) => name ≠ cluster
  | evict (.database name _) => name ≠ cluster
  | evict .everything => False
  | _ => True

theorem Call.Foreign.avoids (foreign : call.Foreign c) : call.Avoids c := by
  cases call with
  | evict what => cases what <;> exact foreign
  | put | delete | keep => exact foreign
  | _ => trivial

theorem Call.avoids_of_quiet (unchanging : call.quiet) : call.Avoids c := by
  cases call with
  | put | delete | keep | evict => simp [quiet] at unchanging
  | _ => trivial

theorem Call.Avoids.spares (avoids : call.Avoids c) : call.Spares (Belongs c) := by
  cases call with
  | put | delete => exact avoids
  | _ => trivial

namespace Eviction

variable {what : Eviction} {key : ConnectionKey}

theorem not_covers (avoids : (Call.evict what).Avoids c) (own : key.cluster = c) : what.covers key = false := by
  subst own
  cases what with
  | cluster name => simpa [covers] using Ne.symm avoids
  | database name d =>
    have other : key.cluster ≠ name := Ne.symm avoids
    simp [covers, other]
  | everything => exact avoids.elim

/-- The generation of this cluster is not raised, and which are raised does not depend on what is cached. -/
theorem raisedBy_eq (avoids : (Call.evict what).Avoids c) :
    ∃ names : List String, c ∉ names ∧ ∀ cache : ConnectionCache, cache.raisedBy what = names := by
  cases what with
  | cluster name => exact ⟨[name], by simpa using Ne.symm avoids, fun _ => rfl⟩
  | database name d => exact ⟨[name], by simpa using Ne.symm avoids, fun _ => rfl⟩
  | everything => exact avoids.elim

end Eviction

/-- All that is stored and cached for a cluster is as it was. -/
structure Kept (cluster : String) (s t : Surroundings) : Prop where
  stored : ∀ key, Belongs cluster key → t.values.get? key = s.values.get? key
  cached : t.broker.cache.entries.filter (·.1.cluster = cluster) = s.broker.cache.entries.filter (·.1.cluster = cluster)
  generation : t.broker.cache.generation cluster = s.broker.cache.generation cluster

namespace Kept

theorem refl (c : String) (s : Surroundings) : Kept c s s := ⟨fun _ _ => rfl, rfl, rfl⟩

theorem trans (h : Kept c s t) (h' : Kept c t u) : Kept c s u where
  stored key own := (h'.stored key own).trans (h.stored key own)
  cached := h'.cached.trans h.cached
  generation := h'.generation.trans h.generation

/-- A call leaves a cluster alone that it avoids. -/
theorem after (avoids : call.Avoids c) (r : call.Answer) : Kept c s (s.after i call r) := by
  have stored (key : String) (own : Belongs c key) : (s.after i call r).values.get? key = s.values.get? key := by
    rw [Surroundings.get?_after, avoids.spares.left? own]
    rfl
  cases call with
  | keep key generation conn =>
    have other : key.cluster ≠ c := avoids
    have placed : (s.after i (.keep key generation conn) r).broker.cache = (s.broker.cache.keep key generation conn).2 :=
      s.broker.cache_keep key generation conn
    refine ⟨stored, ?_, ?_⟩
    · rw [placed]
      rcases s.broker.cache.keep_eq key generation conn with same | ⟨-, -, same⟩ <;> simp [same, other]
    · rw [placed]
      rcases s.broker.cache.keep_eq key generation conn with same | ⟨-, -, same⟩ <;> rw [same]
      rfl
  | evict what =>
    refine ⟨stored, ?_, ?_⟩
    · show (s.broker.cache.entries.filter (!what.covers ·.1)).filter _ = _
      rw [List.filter_filter]
      refine List.filter_congr fun entry _ => ?_
      by_cases own : entry.1.cluster = c
      · simp [own, Eviction.not_covers avoids own]
      · simp [own]
    · obtain ⟨names, apart, raised⟩ := Eviction.raisedBy_eq avoids
      show (s.broker.cache.evict what).2.generation c = _
      rw [ConnectionCache.generation_evict, raised, List.count_eq_zero_of_not_mem apart, Nat.add_zero]
  | _ => exact ⟨stored, rfl, rfl⟩

/-- A program whose calls all avoid a cluster leaves it alone. -/
theorem of_only {p : Program α} (avoids : Program.Only (Call.Avoids c) p) {a : α} (run : Runs i p s a t) : Kept c s t := by
  induction run with
  | done => exact .refl c _
  | call reply _ ih =>
    obtain ⟨-, rfl⟩ := reply
    exact (Kept.after avoids.1 _).trans (ih (avoids.2 _))

end Kept

/-! ## What is not seen -/

/-- Two states that differ in nothing but what is stored and cached for a cluster, and in what they have seen. -/
structure Alike (cluster : String) (s s' : Surroundings) : Prop where
  stored : ∀ key, ¬Belongs cluster key → s'.values.get? key = s.values.get? key
  cached : s'.broker.cache.entries.filter (·.1.cluster ≠ cluster) = s.broker.cache.entries.filter (·.1.cluster ≠ cluster)
  generation : ∀ name, name ≠ cluster → s'.broker.cache.generation name = s.broker.cache.generation name
  /-- The same serial numbers are used up. -/
  opened : ∀ n, (∃ conn ∈ s'.opened, conn.serial = n) ↔ ∃ conn ∈ s.opened, conn.serial = n
  begun : ∀ n, (∃ tr ∈ s'.begun, tr.serial = n) ↔ ∃ tr ∈ s.begun, tr.serial = n

/-- A listing depends on those keys alone that it reaches. -/
theorem MemoryStore.children_congr {values values' : Table String} {above : String}
    (same : ∀ key, child? above key ≠ none → values'.get? key = values.get? key) :
    children values' above = children values above := by
  refine (children_ascending values' above).eq_of_mem_iff (children_ascending values above) fun entry => ?_
  have agree {key : String} (reached : child? above key = some entry) : values'.get? key = values.get? key :=
    same key (by rw [reached]; exact Option.some_ne_none _)
  rw [mem_children_iff, mem_children_iff]
  constructor
  · rintro ⟨key, text, stored, reached⟩
    exact ⟨key, text, agree reached ▸ stored, reached⟩
  · rintro ⟨key, text, stored, reached⟩
    exact ⟨key, text, (agree reached).trans stored, reached⟩

namespace Alike

variable (alike : Alike c s s')
include alike

theorem get? {key : ConnectionKey} (other : key.cluster ≠ c) : s'.broker.cache.get? key = s.broker.cache.get? key := by
  unfold ConnectionCache.get?
  have stays : decide (key.cluster ≠ c) = true := decide_eq_true other
  rw [← ConnectionCache.lookup_filter (p := fun k => decide (k.cluster ≠ c)) s'.broker.cache.entries stays, alike.cached,
    ConnectionCache.lookup_filter (p := fun k => decide (k.cluster ≠ c)) _ stays]

theorem find {key : ConnectionKey} (other : key.cluster ≠ c) : s'.broker.cache.find key = s.broker.cache.find key := by
  unfold ConnectionCache.find
  rw [alike.get? other, alike.generation _ other]

theorem placement {key : ConnectionKey} (other : key.cluster ≠ c) (generation : Nat) (conn : Connection) :
    (s'.broker.keep key generation conn).1 = (s.broker.keep key generation conn).1 := by
  rw [BrokerState.placement_keep, BrokerState.placement_keep]
  unfold ConnectionCache.keep
  rw [alike.get? other, alike.generation _ other]
  split
  · rfl
  · split <;> rfl

theorem evicted {what : Eviction} (avoids : (Call.evict what).Avoids c) :
    (s'.broker.evict what).1 = (s.broker.evict what).1 := by
  have covered (entries : List (ConnectionKey × Connection)) :
      entries.filter (what.covers ·.1) = (entries.filter (·.1.cluster ≠ c)).filter (what.covers ·.1) := by
    rw [List.filter_filter]
    refine List.filter_congr fun entry _ => ?_
    by_cases own : entry.1.cluster = c
    · simp [own, Eviction.not_covers avoids own]
    · simp [own]
  show s'.broker.cache.entries.filter _ = s.broker.cache.entries.filter _
  rw [covered, alike.cached, ← covered]

/-- A foreign call gets the same answers. -/
theorem allows (foreign : call.Foreign c) {r : call.Answer} (allowed : s.Allows call r) : s'.Allows call r := by
  cases call with
  | fetch key =>
    show Surroundings.Gives (s'.values.get? key) r
    rw [alike.stored key foreign]
    exact allowed
  | list above =>
    show Surroundings.Gives (MemoryStore.children s'.values above) r
    have same : MemoryStore.children s'.values above = MemoryStore.children s.values above := by
      refine MemoryStore.children_congr fun key reached => alike.stored key fun own => ?_
      exact reached (foreign key own)
    rw [same]
    exact allowed
  | connect target =>
    intro conn opened
    obtain ⟨leads, unused⟩ := allowed conn opened
    refine ⟨leads, fun d member same => ?_⟩
    obtain ⟨d', member', same'⟩ := (alike.opened conn.serial).1 ⟨d, member, same⟩
    exact unused d' member' same'
  | start conn =>
    intro tr begun
    obtain ⟨leads, unused⟩ := allowed tr begun
    refine ⟨leads, fun d member same => ?_⟩
    obtain ⟨d', member', same'⟩ := (alike.begun tr.serial).1 ⟨d, member, same⟩
    exact unused d' member' same'
  | find key => exact allowed.trans (alike.find foreign).symm
  | keep key generation conn => exact allowed.trans (alike.placement foreign generation conn).symm
  | evict what => exact allowed.trans (alike.evicted foreign.avoids).symm
  | metrics => exact foreign.elim
  | _ => trivial

/-- A foreign call does the same to both. -/
theorem after (foreign : call.Foreign c) (r : call.Answer) : Alike c (s.after i call r) (s'.after i call r) := by
  have stored (key : String) (other : ¬Belongs c key) :
      (s'.after i call r).values.get? key = (s.after i call r).values.get? key := by
    rw [Surroundings.get?_after, Surroundings.get?_after, alike.stored key other]
  have opened (n : Nat) : (∃ conn ∈ (s'.after i call r).opened, conn.serial = n) ↔
      ∃ conn ∈ (s.after i call r).opened, conn.serial = n := by
    simp only [Surroundings.opened_after, List.mem_append, or_and_right, exists_or]
    exact or_congr_right (alike.opened n)
  have begun (n : Nat) : (∃ tr ∈ (s'.after i call r).begun, tr.serial = n) ↔
      ∃ tr ∈ (s.after i call r).begun, tr.serial = n := by
    simp only [Surroundings.begun_after, List.mem_append, or_and_right, exists_or]
    exact or_congr_right (alike.begun n)
  cases call with
  | keep key generation conn =>
    have other : key.cluster ≠ c := foreign
    have placed (u : Surroundings) :
        (u.after i (.keep key generation conn) r).broker.cache = (u.broker.cache.keep key generation conn).2 :=
      u.broker.cache_keep key generation conn
    refine ⟨stored, ?_, fun name apart => ?_, opened, begun⟩
    · rw [placed, placed]
      unfold ConnectionCache.keep
      rw [alike.get? other, alike.generation _ other]
      split
      · exact alike.cached
      · split
        · exact alike.cached
        · rw [List.filter_append, List.filter_append, alike.cached]
    · rw [placed, placed]
      unfold ConnectionCache.keep
      rw [alike.get? other, alike.generation _ other]
      split
      · exact alike.generation name apart
      · split <;> exact alike.generation name apart
  | evict what =>
    refine ⟨stored, ?_, fun name apart => ?_, opened, begun⟩
    · show (s'.broker.cache.entries.filter _).filter _ = (s.broker.cache.entries.filter _).filter _
      rw [List.filter_comm, alike.cached, List.filter_comm]
    · obtain ⟨names, -, raised⟩ := Eviction.raisedBy_eq foreign.avoids
      show (s'.broker.cache.evict what).2.generation name = (s.broker.cache.evict what).2.generation name
      rw [ConnectionCache.generation_evict, ConnectionCache.generation_evict, raised, raised, alike.generation name apart]
  | _ => exact ⟨stored, alike.cached, alike.generation, opened, begun⟩

end Alike

/-- From one state to another, with these events on the way, and what they count. -/
structure Follows (events : List Event) (s t : Surroundings) : Prop where
  history : t.history = events ++ s.history
  metrics : t.broker.metrics = s.broker.metrics.counted events

/-- A program whose calls are all foreign does not see the cluster: what it can do in one of two states that are alike it
    can do in the other, with the same calls and the same answers. -/
theorem Alike.of_only {p : Program α} (foreign : Program.Only (Call.Foreign c) p) {a : α} (alike : Alike c s s')
    (run : Runs i p s a t) :
    ∃ events t', Runs i p s' a t' ∧ Alike c t t' ∧ Follows events s t ∧ Follows events s' t' := by
  induction run generalizing s' with
  | done => exact ⟨[], s', .done, alike, ⟨rfl, rfl⟩, ⟨rfl, rfl⟩⟩
  | @call call next s t u r a reply _ ih =>
    obtain ⟨allowed, rfl⟩ := reply
    have allowed' := alike.allows foreign.1 allowed
    obtain ⟨events, t', run, ends, follows, follows'⟩ := ih (foreign.2 r) (alike.after (i := i) foreign.1 r)
    have first (v : Surroundings) (allowed : v.Allows call r) {w : Surroundings}
        (rest : Follows events (v.after i call r) w) : Follows (events ++ [⟨i, call, r⟩]) v w := by
      refine ⟨by simp [rest.history], ?_⟩
      rw [rest.metrics, Surroundings.metrics_after allowed]
      simp [Metrics.counted]
    exact ⟨events ++ [⟨i, call, r⟩], t', .call ⟨allowed', rfl⟩ run, ends, first s allowed follows, first s' allowed' follows'⟩

/-! ## Calls of a host -/

namespace Router

/-- What a host asks for is never that the broker ends. -/
def Ongoing (asked : Except Refusal Command) : Prop := asked ≠ .ok .shutDown

theorem ongoing_check {β : Type} {r : Except Refusal β} {f : β → Except Refusal Command} (h : ∀ b, Ongoing (f b)) :
    Ongoing (r >>= f) := by
  cases r with
  | ok b => exact h b
  | error why => exact nofun

theorem ongoing_askedTags {data : Fields.Data} : Ongoing (askedTags data) := by
  refine ongoing_check fun cluster? => ?_
  cases cluster? with
  | none => exact nofun
  | some cluster => exact ongoing_check fun database => ongoing_check fun pairs => nofun

theorem ongoing_askedOf {settings : Settings} {r : Request} {route? : Option Route} :
    Ongoing (askedOf settings r route?) := by
  unfold askedOf
  split
  case h_2 => exact ongoing_askedTags
  case h_3 | h_8 | h_11 | h_12 | h_17 => exact ongoing_check fun _ => nofun
  all_goals exact nofun

theorem ongoing_asked {settings : Settings} {r : Request} : Ongoing (asked settings r) := by
  unfold asked
  dsimp only
  split
  · exact ongoing_askedOf
  · exact nofun

/-- What serves a command makes the calls of the command. -/
theorem only_serves {P : Call → Prop} {p : Op Response} {command : Command} (serves : Serves (.ok command) p)
    (only : Op.Only P command.op) : Program.Only P (answering p).run := by
  obtain ⟨β, q, f, g, rfl, does, -⟩ := serves
  have first : Op.Only P q := by
    rw [does] at only
    unfold Op.Only at only ⊢
    rw [Op.run_map] at only
    exact Program.only_of_bind only
  rw [run_answering]
  exact Program.only_bind (Op.only_bind first fun _ => only_pure _) fun _ => Program.only_pure _

end Router

namespace HostCall

theorem ongoing_asked (call : HostCall) : call.asked ≠ .ok .shutDown := by
  cases call with
  | handle settings r => exact Router.ongoing_asked
  | renew settings internal increment issued => exact Router.ongoing_check fun secret => nofun
  | revoke internal => exact Router.ongoing_check fun secret => nofun

/-- The call is about no cluster but about all there are: it asks for the list of clusters, for that of deleted clusters,
    or for the metrics. -/
def Surveys (call : HostCall) : Prop := ∃ command, call.asked = .ok command ∧ command.Surveys

variable {call : HostCall}

/-- A call makes the calls of the command that it asks for, and none if it is refused. -/
theorem only_program {P : Call → Prop} (only : ∀ command, call.asked = .ok command → Op.Only P command.op) :
    Program.Only P call.program := by
  obtain ⟨p, same, serves⟩ := call.serves_program
  rw [same]
  cases asks : call.asked with
  | ok command => exact Router.only_serves (asks ▸ serves) (only command asks)
  | error why =>
    obtain rfl : p = Op.refuse why := by simpa [asks, Router.Serves] using serves
    trivial

section
variable (named : Names.isName c) (apart : ∀ command, call.asked = .ok command → ∀ n ∈ command.about, Apart c n)
include named apart

theorem foreign_program (single : ¬call.Surveys) : Program.Only (Call.Foreign c) call.program := by
  refine only_program fun command asks => ?_
  refine Command.foreign_op named (apart command asks) (fun surveys => single ⟨command, asks, surveys⟩) ?_
  rintro rfl
  exact call.ongoing_asked asks

/-- What a call about other clusters does avoids the cluster, also where it is about all there are. -/
theorem avoids_program : Program.Only (Call.Avoids c) call.program := by
  refine only_program fun command asks => ?_
  by_cases surveys : command.Surveys
  · cases command with
    | inquire inquiry => exact only_mono (fun _ => Call.avoids_of_quiet) inquiry.only_op
    | _ => exact surveys.elim
  · have running : command ≠ .shutDown := by
      rintro rfl
      exact call.ongoing_asked asks
    exact only_mono (fun _ => Call.Foreign.avoids) (Command.foreign_op named (apart command asks) surveys running)

/-- A call about other clusters leaves a cluster alone, and unless it is about all there are it does not see the cluster. -/
theorem cluster_isolated :
    (∀ i s result t, Runs i call.program s result t → Kept c s t) ∧
    (¬call.Surveys → ∀ i s s' result t, Alike c s s' → Runs i call.program s result t →
      ∃ events t', Runs i call.program s' result t' ∧ Alike c t t' ∧ Follows events s t ∧ Follows events s' t') :=
  ⟨fun _ _ _ _ run => Kept.of_only (avoids_program named apart) run,
    fun single _ _ _ _ _ alike run => alike.of_only (foreign_program named apart single) run⟩

end

/-- Where "c1" and "c10" are registered, the deletion of "c10" leaves "c1" alone, and it is the same without "c1". -/
theorem deletion_beside_prefix : ∃ s s' c d c' result t t' events, Reached s ∧
    Loads ClusterRecord.decode s.values (StoreKeys.cluster "c1") (some c) ∧
    Loads DatabaseRecord.decode s.values (StoreKeys.database "c1" "app") (some d) ∧
    Loads ClusterRecord.decode s.values (StoreKeys.cluster "c10") (some c') ∧ Alike "c1" s s' ∧
    s'.values.get? (StoreKeys.cluster "c1") = none ∧
    Runs 0 (about .delete ["cluster", "c10"] .empty).program s result t ∧ Kept "c1" s t ∧
    t.values.get? (StoreKeys.cluster "c10") = some ({ c' with disabled := true } : ClusterRecord).encode ∧
    Runs 0 (about .delete ["cluster", "c10"] .empty).program s' result t' ∧ Alike "c1" t t' ∧
    Follows events s t ∧ Follows events s' t' := by
  have c1 : Names.isName "c1" := by decide +kernel
  have c10 : Names.isName "c10" := by decide +kernel
  have app : Names.isName "app" := by decide +kernel
  obtain ⟨s₁, c, d, reached, stored, -, stored', -, free⟩ := Reached.start.enlisted c1 app rfl rfl
  have empty (key : String) (other : key ≠ StoreKeys.cluster "c1") (other' : key ≠ StoreKeys.database "c1" "app") :
      s₁.values.get? key = none := (free key other other').trans rfl
  obtain ⟨s, c', d', reached, loads, active, -, -, still⟩ := reached.enlisted c10 app
    (empty _ (by decide) (by decide)) (empty _ (by decide) (by decide))
  obtain ⟨t, ran, left⟩ := Command.runs_deleteCluster (i := 0) loads active
  obtain ⟨result, run, -⟩ := runs_told (asks_deleteCluster c10) ran
  have alike : Alike "c1" s { s with values := s.values.erase (StoreKeys.cluster "c1") } := by
    refine ⟨fun key other => ?_, rfl, fun _ _ => rfl, fun _ => Iff.rfl, fun _ => Iff.rfl⟩
    rw [Table.get?_erase, if_neg fun same => other (.inl same)]
  have apart (command : Command) (asks : (about .delete ["cluster", "c10"] .empty).asked = .ok command) (n : String)
      (member : n ∈ command.about) : Apart "c1" n := by
    cases (asks_deleteCluster c10).symm.trans asks
    obtain rfl := List.mem_singleton.1 member
    exact ⟨c10, by decide⟩
  have single : ¬Surveys (about .delete ["cluster", "c10"] .empty) := by
    rintro ⟨command, asks, surveys⟩
    cases (asks_deleteCluster c10).symm.trans asks
    exact surveys
  obtain ⟨writes, reads⟩ := cluster_isolated c1 apart
  obtain ⟨events, t', run', ends, follows, follows'⟩ := reads single 0 _ _ _ _ alike run
  refine ⟨s, _, c, d, c', result, t, t', events, reached, ?_, ?_, loads, alike, ?_, run, writes 0 _ _ _ run, left, run',
    ends, follows, follows'⟩
  · rwa [Loads, still _ (by decide) (by decide)]
  · rwa [Loads, still _ (by decide) (by decide)]
  · rw [Table.get?_erase, if_pos rfl]

end HostCall

end LeaseBroker
