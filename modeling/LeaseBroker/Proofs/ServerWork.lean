import LeaseBroker.Proofs.Footprints

/-!
What operations do between reading and writing: they open connections and run
statements there. How they do it is looked at once, for every reading of the
calls. Where each call to a server keeps something, and fails only in some ways
(`Labour`), all of the work keeps it and fails only in these ways (`Works`). For
what is done on a connection that is there it is enough if the calls do that
which open and close none (`Toil`).
-/
namespace LeaseBroker

open Program (Demands Monotone)

variable {σ α β : Type}

/-- What went wrong on a server. -/
def Call.fault? : (c : Call) → c.Answer → Option SqlError
  | connect _, .error e => some e
  | execute .., .error e => some e
  | start _, .error e => some e
  | run .., .error e => some e
  | commit _, .error e => some e
  | _, _ => none

/-- Calls that work on servers keep `I`, and a failure of theirs is one of `E`. -/
structure Labour (D : Demands σ) (I : σ → Prop) (E : BrokerError → Prop) : Prop where
  call {c : Call} {K : c.Answer → σ → Prop} {s : σ} (works : c.works) (inside : I s)
    (next : ∀ r t, I t → (∀ e, c.fault? r = some e → E (.sql e)) → K r t) : D c K s
  context {what : String} {e : BrokerError} (h : E e) : E (e.inContext what)

/-- Calls that work on connections that are there keep `I`, and a failure of theirs is one of `E`. -/
structure Toil (D : Demands σ) (I : σ → Prop) (E : BrokerError → Prop) : Prop where
  call {c : Call} {K : c.Answer → σ → Prop} {s : σ} (toils : c.toils) (inside : I s)
    (next : ∀ r t, I t → (∀ e, c.fault? r = some e → E (.sql e)) → K r t) : D c K s
  context {what : String} {e : BrokerError} (h : E e) : E (e.inContext what)

theorem Labour.toil {D : Demands σ} {I : σ → Prop} {E : BrokerError → Prop} (l : Labour D I E) : Toil D I E where
  call toils := l.call (Call.works_of_toils _ toils)
  context := l.context

section
variable (D : Demands σ) (I : σ → Prop) (E : BrokerError → Prop)

/-- `p` keeps `I`, and fails only in `E`. -/
def Op.Works (p : Op α) : Prop := ∀ s, I s → Op.wp D (fun _ => I) (fun e t => I t ∧ E e) p s

/-- `p` keeps `I`, and answers with a failure only if that is in `E`. -/
def Program.Works (p : Program (Except SqlError α)) : Prop :=
  ∀ s, I s → Program.wp D (fun r t => I t ∧ ∀ e, r = .error e → E (.sql e)) p s

end

variable {D : Demands σ} {I : σ → Prop} {E : BrokerError → Prop}

/-! ## Single calls -/

namespace Toil

variable (l : Toil D I E)
include l

theorem execute (c : Connection) (sql : String) : Program.Works D I E (Program.execute c sql) :=
  fun _ inside => l.call rfl inside fun _ _ later fine => ⟨later, fun e same => fine e (by rw [same]; rfl)⟩

theorem start (c : Connection) : Program.Works D I E (Program.start c) :=
  fun _ inside => l.call rfl inside fun _ _ later fine => ⟨later, fun e same => fine e (by rw [same]; rfl)⟩

theorem within (t : Transaction) (sql : String) : Program.Works D I E (Program.within t sql) :=
  fun _ inside => l.call rfl inside fun _ _ later fine => ⟨later, fun e same => fine e (by rw [same]; rfl)⟩

theorem commit (t : Transaction) : Program.Works D I E (Program.commit t) :=
  fun _ inside => l.call rfl inside fun _ _ later fine => ⟨later, fun e same => fine e (by rw [same]; rfl)⟩

theorem wp_of_only {p : Program α} {s : σ} (h : Program.Only (·.toils) p) (inside : I s) :
    Program.wp D (fun _ => I) p s := by
  refine Program.wp_of_only (D := D) (I := I) (fun c K s toils inside next => ?_) h inside
  exact l.call toils inside fun r t later _ => next r t later

end Toil

namespace Labour

theorem connect (l : Labour D I E) (t : Target) : Program.Works D I E (Program.connect t) :=
  fun _ inside => l.call rfl inside fun _ _ later fine => ⟨later, fun e same => fine e (by rw [same]; rfl)⟩

theorem wp_of_only (l : Labour D I E) {p : Program α} {s : σ} (h : Program.Only (·.works) p) (inside : I s) :
    Program.wp D (fun _ => I) p s := by
  refine Program.wp_of_only (D := D) (I := I) (fun c K s works inside next => ?_) h inside
  exact l.call works inside fun r t later _ => next r t later

end Labour

namespace Op

theorem works_pure (a : α) : Works D I E (pure a) := fun _ inside => inside

theorem works_throw {e : BrokerError} (h : E e) : Works D I E (throw e : Op α) := fun _ inside => ⟨inside, h⟩

theorem works_lift (l : Labour D I E) {p : Program α} (h : Program.Only (·.works) p) : Works D I E (liftM p : Op α) :=
  fun _ inside => (wp_lift _).2 (l.wp_of_only h inside)

theorem works_toil (l : Toil D I E) {p : Program α} (h : Program.Only (·.toils) p) : Works D I E (liftM p : Op α) :=
  fun _ inside => (wp_lift _).2 (l.wp_of_only h inside)

section
variable [Monotone D]

theorem works_bind {p : Op α} {f : α → Op β} (first : Works D I E p) (rest : ∀ a, Works D I E (f a)) :
    Works D I E (p >>= f) := fun s inside =>
  wp_seq (first s inside) (fun a t later => rest a t later) fun _ _ h => h

/-- Something is looked for, and either it is there or there is none. -/
theorem works_found {p : Op (Option α)} {f : Option α → Op β} (first : Works D I E p) (missing : Works D I E (f none))
    (found : ∀ a, Works D I E (f (some a))) : Works D I E (p >>= f) := by
  refine works_bind first fun a? => ?_
  cases a? with
  | none => exact missing
  | some a => exact found a

theorem works_ofSql {p : Program (Except SqlError α)} (h : Program.Works D I E p) : Works D I E (ofSql p) := by
  intro s inside
  refine (wp_ofSql _).2 (Program.wp_mono (fun r t ended => ?_) (h s inside))
  cases r with
  | ok a => exact ended.1
  | error e => exact ⟨ended.1, ended.2 e rfl⟩

theorem works_inContext (l : Toil D I E) {what : String} {p : Op α} (h : Works D I E p) :
    Works D I E (inContext what p) := by
  intro s inside
  exact (wp_inContext ..).2 (wp_mono (h s inside) (fun _ _ later => later) fun _ _ failed => ⟨failed.1, l.context failed.2⟩)

theorem works_andAlways (l : Labour D I E) {p : Op α} {q : Program Unit} (first : Works D I E p)
    (always : Program.Only (·.works) q) : Works D I E (andAlways p q) := by
  intro s inside
  refine (wp_andAlways ..).2 (wp_mono (first s inside) (fun a t later => ?_) fun e t failed => ?_)
  · exact l.wp_of_only always later
  · exact Program.wp_mono (fun _ u later => ⟨later, failed.2⟩) (l.wp_of_only always failed.1)

end

end Op

open Op

/-! ## Parts of operations -/

namespace Connections

section
variable [Monotone D] (l : Labour D I E)
include l

theorem works_openUncached {cluster : ClusterRecord} {kind : LoginKind} {database : String} :
    Works D I E (openUncached cluster kind database) :=
  works_bind (works_ofSql (l.connect _)) fun _ => works_bind (works_lift l (Program.only_call rfl)) fun _ => works_pure _

/-- Getting a connection is work too, where loading the record of its cluster is and finds one. -/
theorem works_getWithin {key : ConnectionKey}
    (find : ∀ K s, I s → (∀ r t, I t → K r t) → D (.find key) K s)
    (keep : ∀ g c K s, I s → (∀ r t, I t → K r t) → D (.keep key g c) K s)
    (load : ∀ s, I s → Op.wp D (fun record? t => I t ∧ record?.isSome) (fun e t => I t ∧ E e) (loadCluster key.cluster) s)
    (gaveUp : ∀ report, E (.internal report)) (more : Nat) : Works D I E (getWithin key more) := by
  refine fun s inside => wp_getWithin (fun _ => I) (fun _ _ => I) (fun _ _ _ => I) (fun s inside => ⟨inside, gaveUp _⟩)
    (fun _ s inside => find _ s inside fun found t inside => ?_) (fun _ _ s inside => ?_)
    (fun _ g c s inside => keep g c _ s inside fun placed t inside => ?_) more inside
  · cases found <;> exact inside
  · exact wp_found (load s inside) (fun _ missing => absurd missing.2 Bool.false_ne_true)
      (fun _ t loaded => works_openUncached l t loaded.1) fun _ _ => id
  · cases placed with
    | kept => exact inside
    | present _ | superseded => exact l.wp_of_only only_closeQuietly inside

end

theorem works_onManagement [Monotone D] {cluster database : String}
    (get : ∀ key : ConnectionKey, key.cluster = cluster → Works D I E (Connections.get key))
    {act : Connection → Program (Except SqlError α)} (h : ∀ c, Program.Works D I E (act c)) :
    Works D I E (onManagement cluster database act) := by
  refine fun s => wp_onManagement I (fun _ => I) (get _ rfl) fun c s inside => ?_
  refine Program.wp_mono (fun r t ended => ?_) (h c s inside)
  cases r with
  | ok a => exact ended.1
  | error e => exact ⟨⟨ended.1, ended.2 e rfl⟩, fun _ => ended.1⟩

end Connections

section
variable [Monotone D] (l : Toil D I E)
include l

theorem Connections.works_startManagement {cluster database : String}
    (get : ∀ key : ConnectionKey, key.cluster = cluster → Works D I E (Connections.get key)) :
    Works D I E (startManagement cluster database) := works_onManagement get l.start

namespace Fleet

theorem works_rotatePassword {c : Connection} {user : String} : Works D I E (rotatePassword c user) :=
  works_bind (works_toil l (Program.only_call rfl)) fun _ =>
    works_bind (works_ofSql (l.execute _ _)) fun _ => works_pure _

theorem works_provisionCluster {c : Connection} {user : String} : Works D I E (provisionCluster c user) := by
  have role : Works D I E (createManagementRole c) :=
    works_bind (works_toil l (Program.only_call rfl)) fun _ => works_bind (works_toil l (Program.only_call rfl)) fun _ =>
      works_bind (works_ofSql (l.execute _ _)) fun _ => works_pure _
  exact works_bind (works_inContext l role) fun _ =>
    works_bind (works_inContext l (works_rotatePassword l)) fun _ => works_pure _

theorem works_runEach {t : Transaction} {bindings : Bindings} (templates : List String) :
    Program.Works D I E (runEach t bindings templates) := by
  induction templates with
  | nil => exact fun s inside => ⟨inside, nofun⟩
  | cons template rest ih =>
    intro s inside
    refine Program.wp_seq (l.within t _ s inside) fun r u ended => ?_
    cases r with
    | ok a => exact ih u ended.1
    | error e => exact ⟨ended.1, ended.2⟩

theorem works_provisionDatabase {record : ClusterRecord} {cluster database owner : String} {createDatabase : Bool}
    (get : ∀ key : ConnectionKey, key.cluster = cluster → Works D I E (Connections.get key)) :
    Works D I E (provisionDatabase record cluster database owner createDatabase) := by
  have transacting : Works D I E (provisionDatabase record cluster database owner false) := by
    refine works_bind (Connections.works_startManagement l get) fun t s inside => ?_
    refine wp_seq_lift (works_runEach l _ s inside) fun ran u ended => ?_
    cases ran with
    | ok _ => exact works_ofSql (l.commit t) u ended.1
    | error e =>
      have thrown : E ((BrokerError.sql e).inContext "failed to set up objects owner role") := l.context (ended.2 e rfl)
      exact works_bind (works_toil l (calls_rollbackQuietly rfl)) (fun _ => works_throw thrown) u ended.1
  cases createDatabase with
  | false => exact transacting
  | true =>
    refine works_bind (get _ rfl) fun root => ?_
    exact works_bind (works_inContext l (works_ofSql (l.execute _ _))) fun _ => transacting

end Fleet

namespace Replicas

theorem works_rotateBoth {c : Connection} {record : ClusterRecord} : Works D I E (rotateBoth c record) :=
  works_bind (works_inContext l (Fleet.works_rotatePassword l)) fun _ =>
    works_bind (works_inContext l (Fleet.works_rotatePassword l)) fun _ => works_pure _

end Replicas

theorem Credentials.works_revokeWithin {t : Transaction} {bindings : Bindings} {templates : List String} :
    Works D I E (revokeWithin t bindings templates) :=
  works_bind (works_toil l (calls_runRevocation (fun _ => rfl) _ _)) fun _ =>
    works_bind (works_ofSql (l.commit t)) fun _ => works_pure _

end

theorem Replicas.works_tryManagement [Monotone D] (l : Labour D I E) {record : ClusterRecord} :
    Works D I E (tryManagement record) := by
  refine works_bind (works_inContext l.toil (Connections.works_openUncached l)) fun c => ?_
  refine works_bind (works_lift l (Program.only_call rfl)) fun closed => ?_
  cases closed <;> exact works_pure _

/-! ## Registering a cluster -/

namespace Fleet

variable {name : String} {request : ClusterRequest}

/-- What is left to do once a cluster may be registered under a name. -/
def enrol (name : String) (request : ClusterRequest) : Op (Outcome Unit) := do
  let record ← Op.ofRefusal request.validate
  let c ← Connections.openDirect record .root
  let logins ← (provisionCluster c record.username).andAlways (Connections.closeQuietly c)
  saveCluster name { record with
    managementRole := logins.managementRole
    managementPassword := logins.managementPassword
    password := logins.rootPassword }
  let outcome : Outcome Unit :=
    { value := (), warnings := [.rootPasswordRotated, .managementRoleCreated logins.managementRole] }
  match ← Connections.invalidate (.cluster name) with
  | .ok _ => return outcome
  | .error e => return outcome.warn (.cacheFlushFailed e)

/-- A cluster is registered once its name is checked and the record in its place was looked at. -/
theorem wp_registerCluster {D : Demands σ} [Monotone D] {ok : Outcome Unit → σ → Prop} {fail : BrokerError → σ → Prop} {s : σ}
    (misnamed : ∀ why, fail (.refused why) s)
    (looking : Op.wp D (fun _ t => (∀ why, fail (.refused why) t) ∧ Op.wp D ok fail (enrol name request) t) fail
      (loadCluster name) s) : Op.wp D ok fail (registerCluster name request) s := by
  refine Op.wp_checked (fun why _ => misnamed why) fun _ _ => ?_
  exact Op.wp_found looking (fun _ => And.right) (fun _ _ looked => Op.wp_unless (looked.1 _) fun _ => looked.2) fun _ _ => id

end Fleet

/-! ## What is done in the end -/

/-- What is left to do once a database has an owner. -/
def Fleet.enter (cluster database owner : String) : Op (Outcome DatabaseRecord) := do
  let record : DatabaseRecord := { cluster, database, objectsOwner := owner, disabled := false }
  saveDatabase cluster database record
  return { value := record }

/-- What is left to do once the target of tags was found. -/
def TagIndex.enter (cluster : String) (database : Option String) (tags : Table String) : Op String := do
  Op.ofRefusal (checkTags tags)
  let record : TagRecord := { cluster, database, tags }
  Op.ofStore (Program.put (StoreKeys.tagSet record.id) record.encode)
  return record.id

/-- What is left to do once a lease was revoked, with the warnings from before and from its statements. -/
def Credentials.countRevoked (before warnings : List Warning) : Op (Outcome Unit) := do
  Program.tally .revoked
  return { value := (), warnings := before ++ warnings }

/-! ## Work with nothing in between -/

/-- The store holds `values`. -/
def Holding (values : Table String) (s : Surroundings) : Prop := s.values = values

/-- A failure that is not the caller's. -/
def Fatal (e : BrokerError) : Prop := ∀ why, e ≠ .refused why

theorem Fatal.inContext {what : String} {e : BrokerError} (h : Fatal e) : Fatal (e.inContext what) := by
  intro why same
  cases e with
  | refused why' => exact h why' rfl
  | store e => cases same
  | sql e => cases same
  | serialization report => cases same
  | internal report => cases same

section Alone
open Surroundings (alone lucky values_after)

variable {values : Table String} {i : Nat}

/-- Work on servers writes nothing and is not refused. -/
theorem labour_alone : Labour (alone i) (Holding values) Fatal where
  call {c K s} works inside next := by
    refine Surroundings.alone_iff.2 fun r _ => next r _ ?_ fun _ _ => nofun
    exact (values_after (Call.not_writes_of_works c works)).trans inside
  context h := h.inContext

/-- The record of a cluster is there and can be read. -/
def Registered (values : Table String) (cluster : String) : Prop :=
  ∃ record, Loads ClusterRecord.decode values (StoreKeys.cluster cluster) (some record)

/-- A connection to a registered cluster may fail to be got, but is not refused. -/
theorem works_get {cluster : String} (registered : Registered values cluster) (key : ConnectionKey)
    (same : key.cluster = cluster) : Works (alone i) (Holding values) Fatal (Connections.get key) := by
  subst same
  refine Connections.works_getWithin labour_alone (fun K s inside next => ?_) (fun g c K s inside next => ?_)
    (fun s inside => ?_) (fun _ => nofun) Connections.attempts
  · exact Surroundings.alone_iff.2 fun r _ => next r _ inside
  · exact Surroundings.alone_iff.2 fun r _ => next r _ inside
  · refine wp_mono wp_loadRecord (fun record? t loaded => ⟨loaded.1.values.trans inside, ?_⟩) fun e t failed => ?_
    · obtain ⟨record, text, stored, -⟩ := registered
      cases record? with
      | none => cases (inside ▸ stored).symm.trans loaded.2
      | some record => rfl
    · exact ⟨failed.1.values.trans inside, failed.2⟩

/-- Work on servers can always go well. -/
theorem labour_lucky : Labour (lucky i) (Holding values) (fun _ => False) where
  call {c K s} works inside next := by
    have values (r : c.Answer) : Holding values (s.after i c r) :=
      (values_after (Call.not_writes_of_works c works)).trans inside
    suffices fine : ∃ r, s.Allows c r ∧ c.fault? r = none by
      obtain ⟨r, allowed, fine⟩ := fine
      refine Surroundings.lucky_iff.2 ⟨r, allowed, next r _ (values r) fun e same => ?_⟩
      cases fine.symm.trans same
    cases c with
    | connect target =>
      obtain ⟨n, unused⟩ := Surroundings.exists_unused Connection.serial s.opened
      refine ⟨.ok ⟨n, target⟩, ?_, rfl⟩
      rintro _ ⟨⟩
      exact ⟨rfl, unused⟩
    | start c =>
      obtain ⟨n, unused⟩ := Surroundings.exists_unused Transaction.serial s.begun
      refine ⟨.ok ⟨n, c⟩, ?_, rfl⟩
      rintro _ ⟨⟩
      exact ⟨rfl, unused⟩
    | execute c sql | run t sql | commit t => exact ⟨.ok (), trivial, rfl⟩
    | fetch | put | delete | list | find | keep | metrics => cases works
    | _ =>
      obtain ⟨r, allowed⟩ := s.exists_allowed _
      exact ⟨r, allowed, rfl⟩
  context := id

/-- A connection to a registered cluster can be got. -/
theorem works_get_lucky {cluster : String} (registered : Registered values cluster) (key : ConnectionKey)
    (same : key.cluster = cluster) : Works (lucky i) (Holding values) (fun _ => False) (Connections.get key) := by
  subst same
  obtain ⟨record, text, stored, decoded⟩ := registered
  intro s inside
  refine (wp_bind_lift ..).2 (Surroundings.lucky_iff.2 ⟨s.broker.cache.find key, rfl, ?_⟩)
  cases found : s.broker.cache.find key with
  | cached c => exact inside
  | missing g =>
    refine (wp_bind ..).2 ((wp_bind_ofStore ..).2 (Surroundings.lucky_iff.2 ⟨.ok (some text), ?_, ?_⟩))
    · exact (stored.symm.trans (congrArg (Table.get? · _) inside.symm)) ▸ Surroundings.gives_self _
    dsimp only [Program.wp, Except.mapError, Op.Ended]
    rw [decoded]
    obtain ⟨n, unused⟩ := Surroundings.exists_unused Connection.serial s.opened
    let c : Connection := ⟨n, record.target key.kind (key.database.getD record.database)⟩
    refine (wp_bind ..).2 ((wp_bind_ofSql ..).2 (Surroundings.lucky_iff.2 ⟨.ok c, ?_, ?_⟩))
    · rintro _ ⟨⟩
      exact ⟨rfl, unused⟩
    refine (wp_bind_lift ..).2 (Surroundings.lucky_iff.2 ⟨(), trivial, ?_⟩)
    refine (wp_bind_lift ..).2 (Surroundings.lucky_iff.2 ⟨.kept, ?_, inside⟩)
    refine Eq.trans ?_ (BrokerState.placement_keep ..).symm
    exact (congrArg Prod.fst (ConnectionCache.keep_of_missing found c)).symm

end Alone

end LeaseBroker
