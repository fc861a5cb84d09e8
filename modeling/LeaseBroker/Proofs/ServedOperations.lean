import LeaseBroker.Proofs.DatabaseLifecycles
import LeaseBroker.Proofs.TransactionTraces

/-!
Operations where nothing goes wrong around them: the store serves every call,
servers do what they are told, and nobody comes in between. Every record that is
needed can then be read, and every key that is written is one that a store can
have, so an operation succeeds or is refused (`Heeds`). It is followed from step
to step: the store holds the same until something is written, and that is last.
-/
namespace LeaseBroker

open Op

variable {α β : Type} {i : Nat} {values : Table String}

/-- The answer of a store and of servers that serve every call. No store writes under what is no key. -/
def Call.Serves : (c : Call) → c.Answer → Prop
  | fetch _, r => r.isOk
  | put key _, r => r = if MemoryStore.validKey key then .ok () else .error (.invalidKey key)
  | delete _, r => r.isOk
  | list _, r => r.isOk
  | connect _, r => r.isOk
  | execute .., r => r.isOk
  | start _, r => r.isOk
  | close _, r => r.isOk
  | run .., r => r.isOk
  | commit _, r => r.isOk
  | rollback _, r => r.isOk
  | _, _ => True

namespace Surroundings

/-- What may be answered to caller `i` where every call is served, and what follows. -/
def Served (i : Nat) : Program.Replies Surroundings := fun c s r t => s.Allows c r ∧ c.Serves r ∧ t = s.after i c r

/-- For a program that runs on its own and is served. -/
abbrev served (i : Nat) : Program.Demands Surroundings := Program.demonic (Served i)

theorem served_iff {c : Call} {K : c.Answer → Surroundings → Prop} {s : Surroundings} :
    served i c K s ↔ ∀ r, s.Allows c r → c.Serves r → K r (s.after i c r) := by
  constructor
  · exact fun h r allowed serves => h r _ ⟨allowed, serves, rfl⟩
  · rintro h r _ ⟨allowed, serves, rfl⟩
    exact h r allowed serves

/-- Every call can be served. -/
theorem exists_served (s : Surroundings) (c : Call) : ∃ r, s.Allows c r ∧ c.Serves r := by
  cases c with
  | fetch key => exact ⟨.ok _, gives_self _, rfl⟩
  | list above => exact ⟨.ok _, gives_self _, rfl⟩
  | put key value => exact ⟨_, trivial, rfl⟩
  | connect target =>
    obtain ⟨n, unused⟩ := exists_unused Connection.serial s.opened
    refine ⟨.ok ⟨n, target⟩, ?_, rfl⟩
    rintro _ ⟨⟩
    exact ⟨rfl, unused⟩
  | start c =>
    obtain ⟨n, unused⟩ := exists_unused Transaction.serial s.begun
    refine ⟨.ok ⟨n, c⟩, ?_, rfl⟩
    rintro _ ⟨⟩
    exact ⟨rfl, unused⟩
  | delete | execute | close | run | commit | rollback => exact ⟨.ok (), trivial, rfl⟩
  | find | keep | evict | tally | metrics | uuid | password | now =>
    obtain ⟨r, allowed⟩ := s.exists_allowed _
    exact ⟨r, allowed, trivial⟩

/-- Every program comes to an end where it is served. -/
theorem exists_served_run (p : Program α) (s : Surroundings) : ∃ a t, Program.Runs (Served i) p s a t := by
  refine Program.exists_run (fun c s => ?_) p s
  obtain ⟨r, allowed, serves⟩ := s.exists_served c
  exact ⟨r, _, allowed, serves, rfl⟩

theorem reachable_served : Reachable i (Served i) where
  answered reply := ⟨reply.1, reply.2.2⟩
  fetched {key s t r} reply := by
    cases r with
    | ok text? => exact ⟨text?, rfl⟩
    | error e => cases reply.2.1
  connected {target s t r} reply := by
    cases r with
    | ok c => exact ⟨c, rfl⟩
    | error e => cases reply.2.1

end Surroundings

open Surroundings (served served_iff reachable_served)

/-! ## Runs in which nothing fails -/

/-- Whether a call has failed that an operation cannot do without. Closing and rolling back are none of these. -/
def Event.failed : Event → Bool
  | ⟨_, .fetch _, .error _⟩ => true
  | ⟨_, .put .., .error _⟩ => true
  | ⟨_, .delete _, .error _⟩ => true
  | ⟨_, .list _, .error _⟩ => true
  | ⟨_, .connect _, .error _⟩ => true
  | ⟨_, .execute .., .error _⟩ => true
  | ⟨_, .start _, .error _⟩ => true
  | ⟨_, .run .., .error _⟩ => true
  | ⟨_, .commit _, .error _⟩ => true
  | _ => false

namespace Surroundings

/-- Answers to caller `i` of which none is a failure, but for those of closing and rolling back. -/
def Smooth (i : Nat) : Program.Replies Surroundings := fun c s r t => Answered i c s r t ∧ (Event.mk i c r).failed = false

/-- For a program that runs on its own and meets no failure. -/
abbrev smooth (i : Nat) : Program.Demands Surroundings := Program.demonic (Smooth i)

/-- A call has failed since `s`. -/
def Faulty (s t : Surroundings) : Prop := ∃ events, t.history = events ++ s.history ∧ ∃ e ∈ events, e.failed = true

/-- What holds of every run in which nothing fails holds, or something has failed. -/
theorem smooth_or_faulty {p : Program α} {a : α} (run : Runs i p s a t) : Program.Runs (Smooth i) p s a t ∨ Faulty s t := by
  induction run with
  | done => exact .inl .done
  | @call c next s t u r a reply rest ih =>
    obtain ⟨later, grown⟩ := history_grows rest
    have first : t.history = ⟨i, c, r⟩ :: s.history := congrArg history reply.2
    cases failed : (Event.mk i c r).failed with
    | true => exact .inr ⟨later ++ [⟨i, c, r⟩], by rw [← grown, first, List.append_assoc]; rfl, _, by simp, failed⟩
    | false =>
      rcases ih with smooth | ⟨events, grown, e, member, failed⟩
      · exact .inl (.call ⟨reply, failed⟩ smooth)
      · exact .inr ⟨events ++ [⟨i, c, r⟩], by rw [grown, first, List.append_assoc]; rfl, e, by simp [member], failed⟩

theorem reachable_smooth : Reachable i (Smooth i) where
  answered reply := reply.1
  fetched {key s t r} reply := by
    cases r with
    | ok text? => exact ⟨text?, rfl⟩
    | error e => cases reply.2
  connected {target s t r} reply := by
    cases r with
    | ok c => exact ⟨c, rfl⟩
    | error e => cases reply.2

/-- Every program comes to an end without a failure. -/
theorem exists_smooth_run (p : Program α) (s : Surroundings) : ∃ a t, Program.Runs (Smooth i) p s a t := by
  refine Program.exists_run (fun c s => ?_) p s
  suffices h : ∃ r, s.Allows c r ∧ (Event.mk i c r).failed = false by
    obtain ⟨r, allowed, fine⟩ := h
    exact ⟨r, _, ⟨allowed, rfl⟩, fine⟩
  cases c with
  | put key value => exact ⟨.ok (), trivial, rfl⟩
  | _ =>
    obtain ⟨r, allowed, serves⟩ := s.exists_served _
    refine ⟨r, allowed, ?_⟩
    cases r <;> first | rfl | cases serves

/-- Work in which nothing fails goes well. -/
theorem labour_smooth {values : Table String} : Labour (smooth i) (Holding values) (fun _ => False) where
  call {c K s} works inside next := by
    refine reachable_smooth.call fun r _ reply => next r _ ?_ fun e fault => ?_
    · exact (values_after (Call.not_writes_of_works c works)).trans inside
    · have fine := reply.2
      cases c with
      | connect | execute | start | run | commit =>
        cases r with
        | ok a => cases fault
        | error e => cases fine
      | _ => cases fault
  context := id

end Surroundings

/-- A failure that is the caller's. -/
def Refused (e : BrokerError) : Prop := ∃ why, e = .refused why

/-! ## Single steps -/

/-- Work on servers that serve goes well. -/
theorem labour_served : Labour (served i) (Holding values) Refused where
  call {c K s} works inside next := by
    refine served_iff.2 fun r _ serves => next r _ ?_ fun e failed => ?_
    · exact (Surroundings.values_after (Call.not_writes_of_works c works)).trans inside
    · cases c with
      | connect | execute | start | run | commit =>
        cases r with
        | ok a => cases failed
        | error e => cases serves
      | _ => cases failed
  context := by
    rintro what _ ⟨why, rfl⟩
    exact ⟨why, rfl⟩

theorem wp_served_load_bind {decode : String → Except String α} {key : String} {a? : Option α} {f : Option α → Op β}
    {ok : β → Surroundings → Prop} {fail : BrokerError → Surroundings → Prop} {s : Surroundings}
    (loads : Loads decode s.values key a?) (rest : ∀ t, s.Untouched t → Op.wp (served i) ok fail (f a?) t) :
    Op.wp (served i) ok fail (loadRecord decode key >>= f) s := wp_load_reachable reachable_served loads rest

/-- What lies under a key and cannot be read is reported. -/
theorem wp_served_unread {decode : String → Except String α} {key text report : String} {s : Surroundings}
    (found : s.values.get? key = some text) (failed : decode text = .error report) :
    Op.wp (served i) (fun _ _ => False) (fun e _ => e = .serialization report) (loadRecord decode key) s := by
  refine (wp_bind_ofStore ..).2 (served_iff.2 fun r given serves => ?_)
  cases r with
  | error e => cases serves
  | ok text? =>
    obtain rfl : text? = s.values.get? key := Surroundings.eq_of_gives given
    rw [found]
    dsimp only [Program.wp, Except.mapError, Op.Ended]
    rw [failed]
    exact rfl

namespace MemoryStore

/-- What ends with a name is a key. -/
theorem validKey_of_name {key name : String} {above : List Char} (named : Names.isName name)
    (ends : key.toList = above ++ name.toList) : validKey key := by
  obtain ⟨filled, bare⟩ := HostCall.fine_name named
  obtain ⟨c, last⟩ : ∃ c, name.toList.getLast? = some c := by
    refine Option.isSome_iff_exists.1 (List.getLast?_isSome.2 fun empty => filled (String.toList_injective empty))
  have ending : key.toList.getLast? = some c := by rw [ends, List.getLast?_append, last, Option.some_or]
  have nonempty : key.isEmpty = false := by
    refine Bool.eq_false_iff.2 fun empty => ?_
    rw [String.isEmpty_iff.1 empty] at ending
    cases ending
  have value : StoreKeys.isSubtree key = false := by
    refine beq_eq_false_iff_ne.2 fun slash => bare ?_
    cases ending.symm.trans slash
    exact List.mem_of_getLast? last
  rw [validKey, nonempty, value]
  rfl

end MemoryStore

/-! ## What can be read -/

namespace WellFiled

variable (filed : WellFiled values)
include filed

theorem readable_of_named {name : String} (named : Names.isName name) :
    ∃ c?, Loads ClusterRecord.decode values (StoreKeys.cluster name) c? := filed.readable_cluster (Names.slash_not_mem named)

theorem readable_role (name : String) : ∃ r?, Loads RoleRecord.decode values (StoreKeys.role name) r? := by
  refine filed.readable fun text _ filing => ?_
  generalize same : StoreKeys.role name = key at filing
  cases filing with
  | cluster => exact absurd same (StoreKeys.role_ne_cluster _ _)
  | database => exact absurd same (StoreKeys.role_ne_database _ _ _)
  | role => exact ⟨_, RoleRecord.decode_encode _⟩
  | tags => exact absurd same.symm (StoreKeys.tagSet_ne_role _ _)

theorem readable_tags (id : String) : ∃ r?, Loads TagRecord.decode values (StoreKeys.tagSet id) r? := by
  refine filed.readable fun text _ filing => ?_
  generalize same : StoreKeys.tagSet id = key at filing
  cases filing with
  | cluster => exact absurd same (StoreKeys.tagSet_ne_cluster _ _)
  | database => exact absurd same (StoreKeys.tagSet_ne_database _ _ _)
  | role => exact absurd same (StoreKeys.tagSet_ne_role _ _)
  | tags => exact ⟨_, TagRecord.decode_encode _⟩

end WellFiled

/-! ## Operations step by step -/

/-- Where it is served and the store holds `values`, `p` succeeds in `Q` or is refused. -/
def Op.Heeds (i : Nat) (values : Table String) (Q : α → Surroundings → Prop) (p : Op α) : Prop :=
  ∀ s, Holding values s → Op.wp (served i) Q (fun e _ => Refused e) p s

namespace Op

variable {Q : β → Surroundings → Prop} {P : α → Prop}

theorem heeds_pure {b : β} (h : ∀ s, Holding values s → Q b s) : Heeds i values Q (pure b) := h

theorem heeds_refuse {why : Refusal} : Heeds i values Q (refuse why) := fun _ _ => ⟨why, rfl⟩

theorem heeds_refused {why : Refusal} {rest : α → Op β} : Heeds i values Q (refuse why >>= rest) :=
  fun _ _ => (wp_bind ..).2 ⟨why, rfl⟩

theorem heeds_unless {b : Bool} {why : Refusal} {rest : Unit → Op β} (h : b = false → Heeds i values Q (rest ())) :
    Heeds i values Q (if b then refuse why >>= rest else rest ()) := by
  cases b with
  | false => exact h rfl
  | true => exact heeds_refused

theorem heeds_check {r : Except Refusal α} {f : α → Op β} (h : ∀ a, r = .ok a → Heeds i values Q (f a)) :
    Heeds i values Q (ofRefusal r >>= f) := by
  intro s inside
  exact wp_checked (fun why _ => ⟨why, rfl⟩) fun a passed => h a passed s inside

theorem heeds_mono {Q' : β → Surroundings → Prop} {p : Op β} (h : Heeds i values Q p) (weaker : ∀ b t, Q b t → Q' b t) :
    Heeds i values Q' p := fun s inside => wp_mono (h s inside) weaker fun _ _ failed => failed

theorem heeds_bind {p : Op α} {f : α → Op β} (first : Heeds i values (fun a t => Holding values t ∧ P a) p)
    (rest : ∀ a, P a → Heeds i values Q (f a)) : Heeds i values Q (p >>= f) := fun s inside =>
  wp_seq (first s inside) (fun a t later => rest a later.2 t later.1) fun _ _ failed => failed

theorem heeds_of_works {p : Op α} (work : Works (served i) (Holding values) Refused p) :
    Heeds i values (fun _ => Holding values) p := fun s inside =>
  wp_mono (work s inside) (fun _ _ later => later) fun _ _ failed => failed.2

theorem heeds_after {p : Op α} {f : α → Op β} (first : Heeds i values (fun _ => Holding values) p)
    (rest : ∀ a, Heeds i values Q (f a)) : Heeds i values Q (p >>= f) := fun s inside =>
  wp_seq (first s inside) (fun a t later => rest a t later) fun _ _ failed => failed

theorem heeds_work {p : Op α} {f : α → Op β} (work : Works (served i) (Holding values) Refused p)
    (rest : ∀ a, Heeds i values Q (f a)) : Heeds i values Q (p >>= f) := heeds_after (heeds_of_works work) rest

theorem heeds_load {decode : String → Except String α} {key : String} {f : Option α → Op β}
    (readable : ∃ a?, Loads decode values key a?)
    (rest : ∀ a?, Loads decode values key a? → Heeds i values Q (f a?)) :
    Heeds i values Q (loadRecord decode key >>= f) := by
  intro s inside
  obtain ⟨a?, loads⟩ := readable
  have loads' : Loads decode s.values key a? := by rwa [Loads, inside]
  exact wp_served_load_bind loads' fun t same => rest a? loads t (same.values.trans inside)

/-- A record is loaded, and either it is there or there is none. -/
theorem heeds_loaded {decode : String → Except String α} {key : String} {f : Option α → Op β}
    (readable : ∃ a?, Loads decode values key a?) (missing : Heeds i values Q (f none))
    (found : ∀ a, Loads decode values key (some a) → Heeds i values Q (f (some a))) :
    Heeds i values Q (loadRecord decode key >>= f) := by
  refine heeds_load readable fun a? loads => ?_
  cases a? with
  | none => exact missing
  | some a => exact found a loads

/-- What is done last and cannot fail does not matter. -/
theorem heeds_then {p : Op α} {f : α → Op β} (first : Heeds i values (fun _ _ => True) p) (rest : ∀ a, Sure (f a)) :
    Heeds i values (fun _ _ => True) (p >>= f) := by
  intro s inside
  refine wp_seq (first s inside) (fun a t _ => ?_) fun _ _ failed => failed
  have ends : Program.wp (served i) (fun _ _ => True) (f a).run t := Program.wp_demonic_iff.2 fun _ _ _ => trivial
  exact wp_mono (wp_sure (I := fun _ => True) (rest a) ends) (fun _ _ _ => trivial) fun _ _ => False.elim

theorem heeds_put {key text : String} (valid : MemoryStore.validKey key) :
    Heeds i values (fun _ _ => True) (ofStore (Program.put key text)) := by
  refine fun s _ => (wp_ofStore _).2 (served_iff.2 fun r _ serves => ?_)
  obtain rfl : r = .ok () := serves.trans (if_pos valid)
  trivial

theorem heeds_delete {key : String} : Heeds i values (fun _ _ => True) (ofStore (Program.delete key)) := by
  refine fun s _ => (wp_ofStore _).2 (served_iff.2 fun r _ serves => ?_)
  cases r with
  | error e => cases serves
  | ok u => trivial

/-- A listing gives the names of what is stored. -/
theorem heeds_children {above : String} : Heeds i values
    (fun names t => Holding values t ∧ names = StoreKeys.leaves (MemoryStore.children values above))
    (do return StoreKeys.leaves (← ofStore (Program.list above)) : Op (List String)) := by
  refine fun s inside => (wp_bind_ofStore ..).2 (served_iff.2 fun r given serves => ?_)
  cases r with
  | error e => cases serves
  | ok entries =>
    refine ⟨inside, congrArg StoreKeys.leaves ?_⟩
    rw [← inside]
    exact Surroundings.eq_of_gives given

end Op

/-- `p` succeeds or is refused. -/
abbrev Op.Complies (i : Nat) (values : Table String) (p : Op α) : Prop := Op.Heeds i values (fun _ _ => True) p

/-- A single call that works on servers, or draws what is random. -/
theorem works_served {c : Call} (works : c.works) :
    Works (served i) (Holding values) Refused (liftM (Program.call c .done)) :=
  works_lift labour_served (Program.only_call works)

/-- A connection to a registered cluster is got. -/
theorem works_get_served {cluster : String} (registered : Registered values cluster) (key : ConnectionKey)
    (same : key.cluster = cluster) : Works (served i) (Holding values) Refused (Connections.get key) := by
  subst same
  obtain ⟨record, loads⟩ := registered
  intro s inside
  replace loads : Loads ClusterRecord.decode s.values (StoreKeys.cluster key.cluster) (some record) := by rwa [Loads, inside]
  exact wp_mono (Connections.wp_get_reachable reachable_served loads) (fun _ _ got => got.values.trans inside)
    fun _ _ => False.elim

namespace Fleet

theorem complies_registerCluster {name : String} {request : ClusterRequest} (filed : WellFiled values) :
    Op.Complies i values (registerCluster name request) := by
  refine heeds_check fun _ checked => ?_
  have named := isName_of_check checked
  have enrolling : Op.Complies i values (enrol name request) := by
    refine heeds_check fun record _ => heeds_work (Connections.works_openUncached labour_served) fun c => ?_
    refine heeds_work (works_andAlways labour_served (works_provisionCluster labour_served.toil) Connections.only_closeQuietly)
      fun logins => heeds_then (heeds_put (MemoryStore.validKey_of_name named String.toList_append)) fun _ => ?_
    refine sure_bind (sure_lift _) fun closed => ?_
    cases closed <;> exact sure_pure _
  exact heeds_loaded (filed.readable_of_named named) enrolling fun _ _ => heeds_unless fun _ => enrolling

theorem heeds_readCluster {name : String}
    (readable : ∃ c?, Loads ClusterRecord.decode values (StoreKeys.cluster name) c?) :
    Op.Heeds i values (fun _ => Holding values) (readCluster name) :=
  heeds_loaded readable heeds_refuse fun _ _ => heeds_unless fun _ => heeds_pure fun _ inside => inside

theorem heeds_readDatabase {cluster name : String} (filed : WellFiled values)
    (readable : ∃ c?, Loads ClusterRecord.decode values (StoreKeys.cluster cluster) c?) :
    Op.Heeds i values (fun _ => Holding values) (readDatabase cluster name) := by
  refine heeds_loaded readable heeds_refuse fun c _ => heeds_unless fun _ => ?_
  refine heeds_loaded (filed.readable_database cluster name) heeds_refuse fun d _ => heeds_unless fun _ => ?_
  exact heeds_pure fun _ inside => inside

theorem complies_deleteCluster {name : String} (filed : WellFiled values) (named : Names.isName name) :
    Op.Complies i values (deleteCluster name) := by
  refine heeds_after (heeds_readCluster (filed.readable_of_named named)) fun c => ?_
  exact heeds_then (heeds_put (MemoryStore.validKey_of_name named String.toList_append)) fun _ => sure_flushed

theorem complies_registerDatabase {cluster name : String} {request : DatabaseRequest} (filed : WellFiled values) :
    Op.Complies i values (registerDatabase cluster name request) := by
  refine heeds_check fun _ checked => heeds_check fun _ checked' => ?_
  have named := isName_of_check checked
  have named' := isName_of_check checked'
  have saving {d : DatabaseRecord} : Op.Complies i values (saveDatabase cluster name d) :=
    heeds_put (MemoryStore.validKey_of_name named' String.toList_append)
  refine heeds_loaded (filed.readable_of_named named) heeds_refuse fun c loads => heeds_unless fun _ => ?_
  refine heeds_loaded (filed.readable_database cluster name) ?_ fun d _ => heeds_refused
  refine heeds_work (works_lift labour_served (only_chooseOwner rfl)) fun owner => ?_
  dsimp only
  split
  · refine heeds_work (works_provisionDatabase labour_served.toil (works_get_served ⟨c, loads⟩)) fun _ => ?_
    exact heeds_then saving fun _ => sure_pure _
  · exact heeds_then saving fun _ => sure_pure _

theorem complies_deleteDatabase {cluster name : String} (filed : WellFiled values) (named : Names.isName cluster) :
    Op.Complies i values (deleteDatabase cluster name) := by
  refine heeds_loaded (filed.readable_of_named named) heeds_refuse fun c _ => heeds_unless fun _ => ?_
  refine heeds_loaded (filed.readable_database cluster name) heeds_refuse fun d loads => heeds_unless fun _ => ?_
  have named' := (filed.named_database loads).2
  exact heeds_then (heeds_put (MemoryStore.validKey_of_name named' String.toList_append)) fun _ => sure_flushed

end Fleet

namespace Reclaim
open Fleet (sure_flushed)

theorem heeds_deletedAmong {γ : Type} {decode : String → Except String γ} {key : String → String} {disabled : γ → Bool}
    {names : List String} (readable : ∀ name ∈ names, ∃ a?, Loads decode values (key name) a?) :
    Op.Heeds i values (fun _ => Holding values)
      (deletedAmong (fun name => loadRecord decode (key name)) disabled names) := by
  induction names with
  | nil => exact heeds_pure fun _ inside => inside
  | cons name names ih =>
    refine heeds_load (readable name List.mem_cons_self) fun a? _ => ?_
    have rest := ih fun other member => readable other (List.mem_cons_of_mem _ member)
    exact heeds_after rest fun _ => heeds_pure fun _ inside => inside

theorem heeds_listClusters (filed : WellFiled values) : Op.Heeds i values (fun _ => Holding values) listClusters := by
  refine heeds_bind heeds_children fun names listed => heeds_deletedAmong fun name member => ?_
  rw [listed] at member
  exact filed.readable_cluster (MemoryStore.mem_leaves_children_iff.1 member).1

theorem heeds_listDatabases {cluster : String} (filed : WellFiled values) :
    Op.Heeds i values (fun _ => Holding values) (listDatabases cluster) :=
  heeds_bind heeds_children fun _ _ => heeds_deletedAmong fun name _ => filed.readable_database cluster name

theorem heeds_readCluster {name : String}
    (readable : ∃ c?, Loads ClusterRecord.decode values (StoreKeys.cluster name) c?) :
    Op.Heeds i values (fun _ => Holding values) (readCluster name) :=
  heeds_loaded readable heeds_refuse fun _ _ => heeds_unless fun _ => heeds_pure fun _ inside => inside

theorem heeds_readDatabase {cluster name : String} (filed : WellFiled values) :
    Op.Heeds i values (fun _ => Holding values) (readDatabase cluster name) :=
  heeds_loaded (filed.readable_database cluster name) heeds_refuse fun _ _ => heeds_unless fun _ =>
    heeds_pure fun _ inside => inside

theorem complies_purgeCluster {name : String} (filed : WellFiled values) (named : Names.isName name) :
    Op.Complies i values (purgeCluster name) :=
  heeds_after (heeds_readCluster (filed.readable_of_named named)) fun _ =>
    heeds_then heeds_delete fun _ => sure_flushed

theorem complies_purgeDatabase {cluster name : String} (filed : WellFiled values) :
    Op.Complies i values (purgeDatabase cluster name) :=
  heeds_after (heeds_readDatabase filed) fun _ => heeds_then heeds_delete fun _ => sure_flushed

end Reclaim

namespace Replicas

/-- What may be cloned has a name to take. -/
theorem heeds_checkClone {source : String} {request : CloneRequest} (filed : WellFiled values)
    (named : Names.isName source) :
    Op.Heeds i values (fun _ t => Holding values t ∧ Names.isName request.target) (checkClone source request) := by
  unfold checkClone
  refine heeds_unless fun _ => ?_
  cases validPort? request.port with
  | none => exact heeds_refuse
  | some port =>
    refine heeds_loaded (filed.readable_of_named named) heeds_refuse fun c _ => ?_
    refine heeds_unless fun _ => heeds_unless fun _ => heeds_check fun _ checked => ?_
    have named' := isName_of_check checked
    refine heeds_loaded (filed.readable_of_named named') ?_ fun taken _ => heeds_refused
    exact heeds_pure fun _ inside => ⟨inside, named'⟩

theorem complies_cloneCluster {source : String} {request : CloneRequest} (filed : WellFiled values)
    (named : Names.isName source) : Op.Complies i values (cloneCluster source request) := by
  refine heeds_bind (heeds_checkClone filed named) fun record named' => ?_
  refine heeds_work (works_tryManagement labour_served) fun warnings => ?_
  refine heeds_work (works_inContext labour_served.toil (Connections.works_openUncached labour_served)) fun root => ?_
  refine heeds_work (works_andAlways labour_served (works_rotateBoth labour_served.toil) Connections.only_closeQuietly)
    fun passwords => ?_
  have saving {c : ClusterRecord} : Op.Complies i values
      (inContext "failed to store the configuration for clone cluster" (saveCluster request.target c)) := by
    have valid : MemoryStore.validKey (StoreKeys.cluster request.target) :=
      MemoryStore.validKey_of_name named' String.toList_append
    intro s inside
    refine (wp_inContext ..).2 (wp_mono (heeds_put valid s inside) (fun _ _ h => h) ?_)
    rintro _ _ ⟨why, rfl⟩
    exact ⟨why, rfl⟩
  exact heeds_then saving fun _ => sure_bind (sure_lift _) fun _ => sure_pure _

end Replicas

namespace RoleTemplates

theorem heeds_readRole {name : String} (filed : WellFiled values) :
    Op.Heeds i values (fun _ => Holding values) (readRole name) :=
  heeds_loaded (filed.readable_role name) heeds_refuse fun _ _ => heeds_pure fun _ inside => inside

theorem complies_writeRole {limits : LeaseLimits} {name : String} {request : RoleRequest} :
    Op.Complies i values (writeRole limits name request) := by
  refine heeds_check fun _ checked => heeds_unless fun _ => ?_
  have named := isName_of_check checked
  exact heeds_then (heeds_put (MemoryStore.validKey_of_name named String.toList_append)) fun _ => sure_pure _

end RoleTemplates

namespace TagIndex

theorem heeds_load {target : TagTarget} (filed : WellFiled values) :
    Op.Heeds i values (fun _ => Holding values) (load target) := by
  have each (ids : List String) : Op.Heeds i values (fun _ => Holding values) (loadEach ids) := by
    induction ids with
    | nil => exact heeds_pure fun _ inside => inside
    | cons id ids ih =>
      refine Op.heeds_load (filed.readable_tags id) fun r? _ => ?_
      exact heeds_after ih fun _ => heeds_pure fun _ inside => inside
  have listing : Op.Heeds i values (fun _ => Holding values)
      (ofStore (Program.list (StoreKeys.tagSet (target.text ++ "/")))) := by
    refine fun s inside => (wp_ofStore _).2 (served_iff.2 fun r _ serves => ?_)
    cases r with
    | error e => cases serves
    | ok entries => exact inside
  exact heeds_after listing fun entries => each _

theorem heeds_lookup {target : TagTarget} {query : Table String} (filed : WellFiled values) :
    Op.Heeds i values (fun _ => Holding values) (lookup target query) :=
  heeds_check fun _ _ => heeds_after (heeds_load filed) fun _ => heeds_pure fun _ inside => inside

theorem heeds_listing (filed : WellFiled values) : Op.Heeds i values (fun _ => Holding values) listing :=
  heeds_after (heeds_load filed) fun _ => heeds_after (heeds_load filed) fun _ => heeds_pure fun _ inside => inside

theorem complies_write {cluster : String} {database : Option String} {tags : Table String} (filed : WellFiled values)
    (readable : ∃ c?, Loads ClusterRecord.decode values (StoreKeys.cluster cluster) c?) :
    Op.Complies i values (write cluster database tags) := by
  have storing {name : String} (named : Names.isName name)
      (ends : ∃ above, (StoreKeys.tagSet (TagRecord.idOf cluster database)).toList = above ++ name.toList) :
      Op.Complies i values (enter cluster database tags) := by
    obtain ⟨above, ends⟩ := ends
    exact heeds_check fun _ _ => heeds_then (heeds_put (MemoryStore.validKey_of_name named ends)) fun _ => sure_pure _
  have ending (a b name : String) : ∃ above, (a ++ (b ++ name)).toList = above ++ name.toList :=
    ⟨(a ++ b).toList, by rw [← String.append_assoc, String.toList_append]⟩
  refine heeds_loaded readable heeds_refuse fun c loads => ?_
  cases database with
  | none => exact storing (filed.named_cluster loads) (ending _ _ _)
  | some name =>
    refine heeds_loaded (filed.readable_database cluster name) heeds_refused fun d loads => ?_
    exact storing (filed.named_database loads).2 (ending _ _ _)

theorem complies_erase {id : String} : Op.Complies i values (erase id) := by
  unfold erase
  exact heeds_unless fun _ => heeds_delete

end TagIndex

namespace Credentials

theorem complies_issueCredential {settings : Settings} {cluster database role displayName : String}
    (filed : WellFiled values) (named : Names.isName cluster) :
    Op.Complies i values (issueCredential settings cluster database role displayName) := by
  refine heeds_loaded (filed.readable_of_named named) heeds_refuse fun c loads => heeds_unless fun _ => ?_
  refine heeds_loaded (filed.readable_database cluster database) heeds_refuse fun d _ => heeds_unless fun _ => ?_
  refine heeds_loaded (filed.readable_role role) heeds_refuse fun r _ => ?_
  refine heeds_work (works_served rfl) fun id => heeds_work (works_served rfl) fun password => ?_
  refine heeds_work (works_served rfl) fun now => ?_
  refine heeds_work (Connections.works_startManagement labour_served.toil (works_get_served ⟨c, loads⟩)) fun t => ?_
  intro s inside
  refine wp_seq_lift (Fleet.works_runEach labour_served.toil _ s inside) fun ran u ended => ?_
  cases ran with
  | error e =>
    obtain ⟨why, failed⟩ := ended.2 e rfl
    cases failed
  | ok done =>
    have counting : Op.Complies i values (do
        Op.ofSql (Program.commit t)
        Program.tally .issued
        return {
          username := Names.login displayName id, password
          secret := { role, username := Names.login displayName id, cluster, database }
          ttl := r.defaultSpan
          maxTtl := r.maxSpan } : Op Credential) :=
      heeds_work (works_ofSql (labour_served.toil.commit t)) fun _ => heeds_work (works_served rfl) fun _ =>
        heeds_pure fun _ _ => trivial
    exact counting u ended.1

theorem complies_renewCredential {settings : Settings} {secret : LeaseSecret} {increment : Span} {issued : Instant}
    (filed : WellFiled values) (readable : ∀ r, Loads RoleRecord.decode values (StoreKeys.role secret.role) (some r) →
      ∃ c?, Loads ClusterRecord.decode values (StoreKeys.cluster secret.cluster) c?) :
    Op.Complies i values (renewCredential settings secret increment issued) := by
  refine heeds_loaded (filed.readable_role secret.role) heeds_refuse fun r stored => ?_
  refine heeds_loaded (readable r stored) heeds_refuse fun c loads => heeds_unless fun _ => ?_
  refine heeds_loaded (filed.readable_database secret.cluster secret.database) heeds_refuse fun d _ => ?_
  refine heeds_unless fun _ => heeds_work (works_served rfl) fun now => ?_
  dsimp only
  split
  · refine heeds_work ?_ fun _ => heeds_work (works_served rfl) fun _ => heeds_pure fun _ _ => trivial
    exact Connections.works_onManagement (works_get_served ⟨c, loads⟩) fun _ => labour_served.toil.execute _ _
  · exact heeds_pure fun _ _ => trivial

theorem complies_revokeCredential {secret : LeaseSecret} (filed : WellFiled values)
    (readable : ∃ c?, Loads ClusterRecord.decode values (StoreKeys.cluster secret.cluster) c?) :
    Op.Complies i values (revokeCredential secret) := by
  have planning : Op.Heeds i values (fun _ => Holding values) (revocationPlan secret.role) :=
    heeds_loaded (filed.readable_role secret.role) (heeds_pure fun _ inside => inside) fun _ _ =>
      heeds_pure fun _ inside => inside
  refine heeds_after planning fun plan => heeds_loaded readable heeds_refuse fun c loads => ?_
  refine heeds_loaded (filed.readable_database secret.cluster secret.database) heeds_refuse fun d _ => ?_
  have counting (warnings : List Warning) : Op.Complies i values (countRevoked plan.warnings warnings) :=
    heeds_work (works_served rfl) fun _ => heeds_pure fun _ _ => trivial
  dsimp only
  split
  · refine heeds_work (works_bind (Connections.works_openUncached labour_served) fun conn => ?_) counting
    refine works_andAlways labour_served ?_ Connections.only_closeQuietly
    exact works_bind (works_ofSql (labour_served.toil.start conn)) fun t => works_revokeWithin labour_served.toil
  · refine heeds_work (Connections.works_startManagement labour_served.toil (works_get_served ⟨c, loads⟩)) fun t => ?_
    exact heeds_work (works_revokeWithin labour_served.toil) counting

end Credentials

end LeaseBroker
