import LeaseBroker.Proofs.Commands
import LeaseBroker.Proofs.ConcurrentChanges

/-!
Connections of deleted clusters and databases. Who deletes one flushes its
connections after the record was written, so a connection that was looked for
before the deletion is closed, or not even cached. But whether a record is that
of an active cluster is checked before the look-up, in a reading of its own. A
deletion that comes to its end in between is not noticed: the look-up finds the
generation that follows the flush, the connection is opened from the record of
the deleted cluster, and nobody is left to close it. As long as no look-up comes
that late, none stays cached.
-/
namespace LeaseBroker

open Op

namespace Subject

/-- What a deletion of the subject invalidates. -/
def eviction : Subject → Eviction
  | .cluster name => .cluster name
  | .database c name => .database c name

/-- Whether a text is the record of a subject that was deleted. -/
def Disabled : Subject → String → Prop
  | .cluster _, text => ∃ c, ClusterRecord.decode text = .ok c ∧ c.disabled
  | .database .., text => ∃ d, DatabaseRecord.decode text = .ok d ∧ d.disabled

/-- Whether a connection is one of the subject. -/
def Concerns (subject : Subject) (key : ConnectionKey) : Prop := subject.eviction.covers key

theorem concerns_cluster_iff {name : String} {key : ConnectionKey} :
    Concerns (.cluster name) key ↔ key.cluster = name := by simp [Concerns, eviction, Eviction.covers]

theorem concerns_database_iff {c name : String} {key : ConnectionKey} :
    Concerns (.database c name) key ↔ key.cluster = c ∧ key.database = some name := by
  simp [Concerns, eviction, Eviction.covers]

theorem Concerns.raised {subject : Subject} {key : ConnectionKey} (h : subject.Concerns key) (cache : ConnectionCache) :
    key.cluster ∈ cache.raisedBy subject.eviction := by
  cases subject with
  | cluster name => exact List.mem_singleton.2 (concerns_cluster_iff.1 h)
  | database c name => exact List.mem_singleton.2 (concerns_database_iff.1 h).1

/-- The record of a cluster is that of no other subject. -/
theorem eq_of_key_cluster {subject : Subject} {name : String} (named : Names.isName name)
    (same : subject.key = StoreKeys.cluster name) : subject = .cluster name := by
  cases subject with
  | cluster n => exact congrArg _ (StoreKeys.cluster_injective same)
  | database c n => exact absurd same.symm (StoreKeys.cluster_ne_database (Names.slash_not_mem named) c n)

/-- The record of a database is not that of a cluster. -/
theorem not_disabled_cluster (name : String) (d : DatabaseRecord) : ¬Disabled (.cluster name) d.encode := by
  rintro ⟨record, decoded, -⟩
  obtain ⟨report, failed⟩ := d.cluster_decode_encode
  cases failed.symm.trans decoded

/-- The record of a database says of no other subject that it was deleted. -/
theorem eq_of_key_database {subject : Subject} {c name : String} (named : Names.isName c) (named' : Names.isName name)
    (same : subject.key = StoreKeys.database c name) {d : DatabaseRecord} (disabled : subject.Disabled d.encode) :
    subject = .database c name := by
  cases subject with
  | cluster n => exact absurd disabled (not_disabled_cluster n d)
  | database c' n =>
    obtain ⟨rfl, rfl⟩ := StoreKeys.database_injective (Names.slash_not_mem named) (Names.slash_not_mem named') same
    rfl

/-- The record of an active database says of no subject that it was deleted. -/
theorem not_disabled_encode (subject : Subject) {d : DatabaseRecord} (active : d.disabled = false) :
    ¬subject.Disabled d.encode := by
  cases subject with
  | cluster n => exact not_disabled_cluster n d
  | database c n =>
    rintro ⟨record, decoded, disabled⟩
    rw [DatabaseRecord.decode_encode] at decoded
    cases decoded
    cases active.symm.trans disabled

end Subject

/-- The key of a connection that was looked for and not found. -/
def Event.missed? : Event → Option ConnectionKey
  | ⟨_, .find key, .missing _⟩ => some key
  | _ => none

namespace Surroundings

/-- Whether the stored record says that the subject was deleted. -/
def Gone (s : Surroundings) (subject : Subject) : Prop :=
  ∃ text, s.values.get? subject.key = some text ∧ subject.Disabled text

/-- Whether a caller has deleted the subject and not flushed its connections since. -/
def DeletedBy (asker : Nat) (subject : Subject) : List Event → Prop
  | [] => False
  | e :: earlier =>
    (e.asker = asker ∧ ∃ text, e.left? subject.key = some (some text) ∧ subject.Disabled text) ∨
      ¬(e.asker = asker ∧ e.call = .evict subject.eviction) ∧ DeletedBy asker subject earlier

/-- If the subject is deleted, some caller has yet to flush its connections. -/
def Owed (s : Surroundings) (subject : Subject) : Prop := s.Gone subject → ∃ asker, DeletedBy asker subject s.history

/-- Wherever a connection of a deleted subject is cached, some caller has yet to flush it. -/
def Swept (s : Surroundings) : Prop :=
  ∀ subject key c, (key, c) ∈ s.broker.cache.entries → Subject.Concerns subject key → s.Owed subject

/-! ## What any step does to a subject -/

/-- From `s` to `t`, what was owed still is, unless a generation was raised. -/
structure Paced (s t : Surroundings) : Prop where
  raised : ∀ cluster, s.generation cluster ≤ t.generation cluster
  owed : ∀ subject key, Subject.Concerns subject key → s.generation key.cluster = t.generation key.cluster →
    s.Owed subject → t.Owed subject

theorem Paced.refl (s : Surroundings) : Paced s s := ⟨fun _ => Nat.le_refl _, fun _ _ _ _ h => h⟩

theorem Paced.trans (s t u : Surroundings) (h : Paced s t) (h' : Paced t u) : Paced s u := by
  refine ⟨fun cluster => Nat.le_trans (h.raised cluster) (h'.raised cluster), fun subject key own stood owed => ?_⟩
  have := h.raised key.cluster
  have := h'.raised key.cluster
  exact h'.owed subject key own (by omega) (h.owed subject key own (by omega) owed)

section Steps
variable {s : Surroundings} {i : Nat} {c : Call} {r : c.Answer} {subject : Subject}

/-- Only an invalidation of the subject can end what is owed. -/
theorem Owed.after (h : s.Owed subject) (other : c ≠ .evict subject.eviction) : (s.after i c r).Owed subject := by
  rintro ⟨text, stored, disabled⟩
  rw [get?_after] at stored
  cases left : (Event.mk i c r).left? subject.key with
  | none =>
    rw [left] at stored
    obtain ⟨asker, deleted⟩ := h ⟨text, stored, disabled⟩
    exact ⟨asker, .inr ⟨fun own => other own.2, deleted⟩⟩
  | some text? =>
    rw [left] at stored
    obtain rfl : text? = some text := stored
    exact ⟨i, .inl ⟨rfl, text, left, disabled⟩⟩

theorem paced_after : Paced s (s.after i c r) := by
  refine ⟨fun _ => generation_after.1, fun subject key own stood owed => owed.after fun same => ?_⟩
  exact Nat.ne_of_lt (generation_after.2 _ same (own.raised _)) stood

/-- Every call but the one that keeps a connection leaves the cache as it was or flushes it. -/
theorem Swept.after (h : Swept s) (notKept : ∀ key g d, c ≠ .keep key g d) : Swept (s.after i c r) := by
  intro subject key d member own
  obtain ⟨before, uncovered⟩ := entries_after notKept member
  refine (h subject key d before own).after fun same => ?_
  cases (uncovered _ same).symm.trans own

/-- A connection may be kept for which all that is needed was owed when its generation was read. -/
theorem Swept.after_keep {key : ConnectionKey} {g : Nat} {d : Connection} {r : ConnectionCache.Placement} (h : Swept s)
    (fresh : s.generation key.cluster = g → ∀ subject, Subject.Concerns subject key → s.Owed subject) :
    Swept (s.after i (.keep key g d) r) := by
  intro subject key' d' member own
  rcases entries_after_keep member with old | ⟨stands, new⟩
  · exact (h subject key' d' old own).after nofun
  · obtain ⟨rfl, rfl⟩ := Prod.mk.inj new
    exact (fresh stands subject own).after nofun

end Steps

/-! ## Looking for connections in time -/

/-- If a connection has just been looked for and not found, nothing that it concerns is deleted. -/
def Timely (s : Surroundings) : Prop :=
  ∀ e earlier key, s.history = e :: earlier → e.missed? = some key →
    ∀ subject, Subject.Concerns subject key → ¬s.Gone subject

/-- As long as the generation is `g`, whatever concerns the connection is owed. -/
structure Watched (key : ConnectionKey) (g : Nat) (s : Surroundings) : Prop where
  reached : g ≤ s.generation key.cluster
  owed : s.generation key.cluster = g → ∀ subject, Subject.Concerns subject key → s.Owed subject

theorem Watched.paced {key : ConnectionKey} {g : Nat} {s t : Surroundings} (h : Watched key g s) (moved : Paced s t) :
    Watched key g t := by
  have raised := moved.raised key.cluster
  have reached := h.reached
  exact ⟨by omega, fun stands subject own => moved.owed subject key own (by omega) (h.owed (by omega) subject own)⟩

section
variable {α : Type} {i : Nat} {s : Surroundings} {key : ConnectionKey}

/-- For a program that keeps the cache swept while others do, where all look-ups come in time. -/
abbrev sweeping (i : Nat) : Program.Demands Surroundings := Pool.amid Timely Swept (fun _ => Paced) i

theorem sweeping_step {c : Call} {K : c.Answer → Surroundings → Prop} (notKept : !c.keeps)
    (h : ∀ (t : Surroundings) r, t.Allows c r → Timely (t.after i c r) → Paced s (t.after i c r) → K r (t.after i c r)) :
    sweeping i c K s := by
  intro t swept moved r allowed timely
  refine ⟨swept.after fun key g d same => ?_, fun _ _ => paced_after, h t r allowed timely ?_⟩
  · subst same
    cases notKept
  · exact Paced.trans _ _ _ moved paced_after

theorem wp_watched {p : Program α} {g : Nat} (h : Program.Only (!·.keeps) p) (start : Watched key g s) :
    Program.wp (sweeping i) (fun _ t => Watched key g t) p s := by
  refine Program.wp_of_only (D := sweeping i) (I := Watched key g) (fun c K s notKept inside next => ?_) h start
  exact sweeping_step notKept fun _ r _ _ moved => next r _ (inside.paced moved)

end

end Surroundings

open Surroundings

variable {α β : Type} {i : Nat} {s : Surroundings}

/-- A connection that is got is cached only in time. -/
theorem Connections.wp_sweeping_getWithin (key : ConnectionKey) (more : Nat) :
    Op.wp (sweeping i) (fun _ _ => True) (fun _ _ => True) (getWithin key more) s := by
  refine wp_getWithin (fun _ _ => True) (fun _ g => Watched key g) (fun _ g _ => Watched key g) (fun _ _ => trivial)
    (fun _ s _ => sweeping_step rfl fun t found looked timely _ => ?_) (fun _ g s watched => ?_)
    (fun _ g c s watched w swept moved placed _ _ => ?_) more trivial
  · cases found with
    | cached c => trivial
    | missing g =>
      exact ⟨Nat.le_of_eq (generation_of_missing looked).symm,
        fun _ subject own gone => absurd gone (timely _ _ key (after_history ..) rfl subject own)⟩
  · have loading : Op.Only (!·.keeps) (loadCluster key.cluster) := CacheTask.reading only_loadRecord
    refine wp_found (wp_either.2 (wp_watched loading watched)) (fun _ _ => trivial) (fun record t watched => ?_)
      fun _ _ _ => trivial
    have opening : Op.Only (!·.keeps) (openUncached record key.kind (key.database.getD record.database)) :=
      CacheTask.working only_openUncached
    exact wp_mono (wp_either.2 (wp_watched opening watched)) (fun _ _ => id) fun _ _ _ => trivial
  · refine ⟨swept.after_keep (watched.paced moved).owed, fun _ _ => paced_after, ?_⟩
    cases placed with
    | kept => trivial
    | present _ | superseded =>
      exact Program.wp_of_only (D := sweeping i) (I := fun _ => True)
        (fun c _ _ works _ next => sweeping_step (c.not_keeps_of_works works) fun _ r _ _ _ => next r _ trivial)
        only_closeQuietly trivial

theorem routine_sweeping : Routine (sweeping i) (fun _ => True) where
  labour := {
    call := fun {c _ _} works _ next =>
      sweeping_step (c.not_keeps_of_works works) fun _ r _ _ _ => next r _ trivial fun _ _ => trivial
    context := fun _ => trivial }
  quiet {c _ _} quiet _ next := sweeping_step (c.not_keeps_of_quiet quiet) fun _ r _ _ _ => next r _ trivial
  get key _ _ := wp_mono (Connections.wp_sweeping_getWithin key _) (fun _ _ h => h) fun _ _ _ => ⟨trivial, trivial⟩

theorem free_sweeping {key : String} : Free (sweeping i) (fun _ => True) key where
  put _ _ _ _ next := sweeping_step rfl fun _ r _ _ _ => next r _ trivial
  delete _ next := sweeping_step rfl fun _ r _ _ _ => next r _ trivial

/-- Every command keeps the cache swept, whatever the others do, where all look-ups come in time. -/
theorem Command.wp_sweeping (command : Command) : Program.wp (sweeping i) (fun _ _ => True) command.op.run s := by
  have renewable (name : String) : Renewable (sweeping i) (fun _ => True) name := routine_sweeping.habit.renewable free_sweeping
  have frees : command.Frees (sweeping i) fun _ => True := by
    cases command with
    | registerCluster name request => exact renewable name
    | deleteCluster name => exact renewable name
    | purgeCluster name => exact renewable name
    | cloneCluster source request => exact ⟨free_sweeping, fun _ _ => keeps_put free_sweeping⟩
    | writeTags cluster database tags => exact fun _ => free_sweeping
    | registerDatabase | deleteDatabase | purgeDatabase | writeRole | deleteRole | eraseTags => exact free_sweeping
    | _ => trivial
  exact Program.wp_mono (fun _ _ _ => trivial) (keeps_op routine_sweeping.habit command frees s trivial)

/-! ## Flushing what was deleted -/

namespace Surroundings

/-- What a caller has deleted and not flushed since is among `P`. -/
def Due (i : Nat) (P : Subject → Prop) (s : Surroundings) : Prop := ∀ subject, DeletedBy i subject s.history → P subject

/-- Nothing has become due for the caller. -/
def Apart (i : Nat) (s t : Surroundings) : Prop :=
  ∀ subject, DeletedBy i subject t.history → DeletedBy i subject s.history

section
variable {t : Surroundings} {c : Call} {r : c.Answer} {P : Subject → Prop}

theorem Due.apart (h : Due i P s) (moved : Apart i s t) : Due i P t := fun subject due => h subject (moved subject due)

theorem apart_after {j : Nat} (other : j ≠ i) : Apart j s (s.after i c r) := by
  rintro subject (⟨own, -⟩ | ⟨-, deleted⟩)
  · exact absurd own.symm other
  · exact deleted

theorem Due.after (h : Due i P s)
    (deleting : ∀ subject text, (Event.mk i c r).left? subject.key = some (some text) → subject.Disabled text → P subject) :
    Due i P (s.after i c r) := by
  rintro subject (⟨-, text, left, disabled⟩ | ⟨-, deleted⟩)
  · exact deleting subject text left disabled
  · exact h subject deleted

theorem Due.after_put {key value : String} {r : Except StoreError Unit} (h : Due i P s)
    (deleting : ∀ subject : Subject, subject.key = key → subject.Disabled value → P subject) :
    Due i P (s.after i (.put key value) r) := by
  refine h.after fun subject text left disabled => ?_
  cases r with
  | error e => cases left
  | ok written =>
    simp only [Event.left?] at left
    split at left
    · rename_i own
      cases left
      exact deleting subject own.symm disabled
    · cases left

theorem Due.after_delete {key : String} {r : Except StoreError Unit} (h : Due i P s) :
    Due i P (s.after i (.delete key) r) := by
  refine h.after fun subject text left _ => ?_
  cases r with
  | error e => cases left
  | ok deleted =>
    simp only [Event.left?] at left
    split at left <;> cases left

theorem Due.after_unwritten (h : Due i P s) (notWritten : !c.writes) : Due i P (s.after i c r) := by
  refine h.after fun subject text left _ => ?_
  rw [left?_of_not_writes notWritten] at left
  cases left

/-- After the flush nothing is due. -/
theorem Due.after_evict {what : Eviction} {r : List (ConnectionKey × Connection)}
    (h : Due i (·.eviction = what) s) : Due i (fun _ => False) (s.after i (.evict what) r) := by
  rintro subject (⟨-, text, left, -⟩ | ⟨stays, deleted⟩)
  · cases left
  · exact stays ⟨rfl, congrArg _ (h subject deleted).symm⟩

/-- Who has done nothing yet has deleted nothing. -/
theorem not_deletedBy {subject : Subject} {events : List Event} (unasked : ∀ e ∈ events, e.asker ≠ i) :
    ¬DeletedBy i subject events := by
  induction events with
  | nil => exact id
  | cons e earlier ih =>
    rintro (⟨own, -⟩ | ⟨-, deleted⟩)
    · exact unasked e List.mem_cons_self own
    · exact ih (fun e member => unasked e (List.mem_cons_of_mem _ member)) deleted

/-- For a program that looks after what is due for its caller. -/
abbrev settling (i : Nat) : Program.Demands Surroundings := Pool.amid (fun _ => True) (fun _ => True) Apart i

theorem settling_step {c : Call} {K : c.Answer → Surroundings → Prop} (h : ∀ t r, Apart i s t → K r (t.after i c r)) :
    settling i c K s := fun t _ moved r _ _ => ⟨trivial, fun _ other => apart_after other, h t r moved⟩

end

end Surroundings

section
variable {P : Subject → Prop}

theorem routine_settling : Routine (settling i) (Due i P) where
  labour := {
    call := fun {c _ _} works due next => settling_step fun _ r moved =>
      next r _ ((due.apart moved).after_unwritten (c.not_writes_of_works works)) fun _ _ => trivial
    context := fun _ => trivial }
  quiet {c _ _} quiet due next := settling_step fun _ r moved =>
    next r _ ((due.apart moved).after_unwritten (c.not_writes_of_quiet quiet))
  get key s due := by
    have kept : Op.wp (settling i) (fun _ => Due i P) (fun _ => Due i P) (Connections.get key) s :=
      wp_of_only (D := settling i) (fun c _ _ unwritten due next => settling_step fun _ r moved =>
        next r _ ((due.apart moved).after_unwritten unwritten)) (Connections.only_getWithin _) due
    exact wp_mono kept (fun _ _ later => later) fun _ _ later => ⟨later, trivial⟩

/-- To write a record and to flush what it deletes leaves nothing due. -/
theorem keeps_flushing {key value : String} {what : Eviction}
    (flushes : ∀ subject : Subject, subject.key = key → subject.Disabled value → subject.eviction = what) :
    Op.Keeps (settling i) (Due i fun _ => False) (do
      ofStore (Program.put key value)
      Connections.invalidate what : Op (Except SqlError Nat)) := by
  intro s due
  refine (wp_bind_ofStore ..).2 (settling_step fun t r moved => ?_)
  replace due := due.apart moved
  cases r with
  | error e => exact ⟨due.after nofun, trivial⟩
  | ok written =>
    have due' : Due i (·.eviction = what) (t.after i (.put key value) (.ok written)) :=
      Due.after_put (fun subject deleted => (due subject deleted).elim) flushes
    refine (wp_lift _).2 ((Program.wp_bind ..).2 (settling_step fun u evicted moved => ?_))
    have flushed := (due'.apart moved).after_evict (r := evicted)
    have closing := (routine_settling (i := i)).labour.wp_of_only
      (Program.only_mono Call.works_of_tends (Connections.tends_closeAll evicted)) flushed
    refine Program.wp_seq closing fun failures v later => ?_
    cases failures <;> exact later

end

namespace Command

/-- Commands that issue, renew or revoke a credential, register a database, or delete a cluster or a database by its
    name, and those that change nothing. -/
def Accesses : Command → Prop
  | issueCredential .. | renewCredential .. | revokeCredential _ | registerDatabase .. | inquire _ => True
  | deleteCluster name => Names.isName name
  | deleteDatabase cluster name => Names.isName cluster ∧ Names.isName name
  | _ => False

/-- Such a command flushes what it deletes. -/
theorem wp_settling {command : Command} (accesses : command.Accesses) (due : Due i (fun _ => False) s) :
    Program.wp (settling i) (fun _ => Due i fun _ => False) command.op.run s := by
  have habit : Habit (settling i) (Due i fun _ => False) := routine_settling.habit
  have kept : Op.Keeps (settling i) (Due i fun _ => False) command.op := by
    cases command with
    | issueCredential settings cluster name role displayName =>
      exact works_bind habit.keeps_issueCredential fun _ => works_pure _
    | renewCredential settings secret increment issued => exact keeps_unkept habit.keeps_renewCredential
    | revokeCredential secret => exact keeps_unkept habit.keeps_revokeCredential
    | inquire about => exact habit.keeps_quiet about.only_op
    | registerDatabase cluster name request =>
      refine keeps_unkept (habit.keeps_registerDatabase_of fun owner => keeps_ofStore fun s due => ?_)
      refine settling_step fun t r moved => (due.apart moved).after_put fun subject _ disabled => ?_
      exact subject.not_disabled_encode rfl disabled
    | deleteCluster name =>
      refine keeps_unkept (habit.keeps_deleteCluster ⟨fun value => keeps_flushing fun subject own _ => ?_, ?_⟩)
      · rw [Subject.eq_of_key_cluster accesses own]
        rfl
      · refine works_bind (keeps_ofStore fun s due => ?_) fun _ => habit.invalidate _
        exact settling_step fun t r moved => (due.apart moved).after_delete
    | deleteDatabase cluster name =>
      refine keeps_unkept (habit.keeps_deleteDatabase_of fun d => keeps_flushing fun subject own disabled => ?_)
      rw [Subject.eq_of_key_database accesses.1 accesses.2 own disabled]
      rfl
    | _ => exact accesses.elim
  refine Program.wp_mono (fun result t ended => ?_) (kept s due)
  cases result with
  | ok a => exact ended
  | error e => exact ended.1

/-- Commands that start together. -/
def pool (commands : Nat → Command) (s : Surroundings) : Pool (Except BrokerError (Option Credential)) :=
  ⟨s, fun i => (commands i).op.run⟩

/-- Whether a caller has not begun yet or has ended. -/
def Idle (p : Pool (Except BrokerError (Option Credential))) (i : Nat) : Prop :=
  (∃ result, p.tasks i = .done result) ∨ ∀ e ∈ p.shared.history, e.asker ≠ i

theorem due_of_idle {commands : Nat → Command} {values : Table String} {broker : BrokerState}
    {q : Pool (Except BrokerError (Option Credential))} (accesses : ∀ i, (commands i).Accesses)
    (run : Pool.Reaches (pool commands ⟨values, broker, []⟩) q) (i : Nat) (idle : Idle q i) :
    Due i (fun _ => False) q.shared := by
  rcases idle with ⟨result, ended⟩ | unasked
  · obtain ⟨-, each⟩ := run.within.safe (M := Apart) (Q := fun i _ => Due i fun _ => False) (fun _ _ _ h => h)
      (fun _ _ _ _ first second subject due => first subject (second subject due))
      (fun _ _ _ _ moved due => due.apart moved) trivial
      fun i => wp_settling (accesses i) fun _ due => due
    have due := each i
    rw [ended] at due
    exact due
  · exact fun subject due => not_deletedBy unasked due

/-- Where no connection is looked for after its cluster or database was deleted, a connection of one that is deleted is
    cached only until who deleted it has flushed it; and while nobody is at work on anything, none is. -/
theorem deleted_connections_flushed {commands : Nat → Command} {values : Table String} {broker : BrokerState}
    {q : Pool (Except BrokerError (Option Credential))}
    (active : ∀ subject key c, (key, c) ∈ broker.cache.entries → Subject.Concerns subject key →
      ¬Gone ⟨values, broker, []⟩ subject)
    (run : Pool.ReachesWithin Timely (pool commands ⟨values, broker, []⟩) q) :
    (∀ subject key c, (key, c) ∈ q.shared.broker.cache.entries → Subject.Concerns subject key → q.shared.Gone subject →
      ∃ i, DeletedBy i subject q.shared.history) ∧
    ((∀ i, (commands i).Accesses) → (∀ i, Idle q i) →
      ∀ subject key c, (key, c) ∈ q.shared.broker.cache.entries → Subject.Concerns subject key → ¬q.shared.Gone subject) := by
  have start : Swept (pool commands ⟨values, broker, []⟩).shared :=
    fun subject key c cached own gone => absurd gone (active subject key c cached own)
  obtain ⟨swept, -⟩ := run.safe (Q := fun _ _ _ => True) (fun _ => Paced.refl) (fun _ => Paced.trans) (fun _ _ _ _ _ h => h)
    start fun i => wp_sweeping (commands i)
  refine ⟨swept, fun accesses idle subject key c cached own gone => ?_⟩
  obtain ⟨i, deleted⟩ := swept subject key c cached own gone
  exact due_of_idle accesses run.reaches i (idle i) subject deleted

/-! ## A registration and a deletion -/

section Scripts
open ClusterRecord (exampleRecord)
open CacheTask (exampleValues)
open RecordTask (readsCluster readsDatabase)

def exampleDeleted : ClusterRecord := { exampleRecord with disabled := true }

def exampleKey : ConnectionKey := Connections.managementKey "main" "app"

/-- A connection to the database that was opened when its cluster was deleted. -/
def exampleConnection : Connection := ⟨0, exampleDeleted.target .management "app"⟩

def exampleEnlisting : DatabaseRequest := { objectsOwner := "owner", createDatabase := false }

def exampleOwner : String := Octets.truncate "owner" Names.identifierLimit

def exampleEnlisted : DatabaseRecord where
  cluster := "main"
  database := "app"
  objectsOwner := exampleOwner
  disabled := false

/-- Caller 0 registers a database and caller 1 deletes its cluster. The others are refused at once. -/
def exampleCommands : Nat → Command
  | 0 => .registerDatabase "main" "app" exampleEnlisting
  | 1 => .deleteCluster "main"
  | _ => .registerDatabase "" "" {}

def exampleStart : Surroundings := ⟨exampleValues, BrokerState.empty, []⟩

theorem accesses_example (i : Nat) : (exampleCommands i).Accesses := by
  match i with
  | 0 => trivial
  | 1 => show Names.isName "main" = true; decide +kernel
  | i + 2 => trivial

/-- The registration reads that its cluster is active and the database is not registered. -/
def checks : List Event := [readsCluster 0 "main" exampleRecord, readsDatabase 0 "main" "app" none]

/-- It looks for a connection. -/
def looks (generation : Nat) : Event := ⟨0, .find exampleKey, .missing generation⟩

/-- It opens one from the record of the cluster, which is deleted by now, and begins its work on it. -/
def opens (generation : Nat) : List Event :=
  [readsCluster 0 "main" exampleDeleted, ⟨0, .connect exampleConnection.target, .ok exampleConnection⟩,
    ⟨0, .tally .opened, ()⟩, ⟨0, .keep exampleKey generation exampleConnection, .kept⟩,
    ⟨0, .start exampleConnection, .ok ⟨0, exampleConnection⟩⟩]

/-- It makes the owner of the objects and stores the database. -/
def provisions : List Event :=
  [⟨0, .run ⟨0, exampleConnection⟩ (Template.render Statements.createObjectsOwner
      (Fleet.objectsOwnerBindings exampleRecord exampleOwner)), .ok ()⟩,
    ⟨0, .run ⟨0, exampleConnection⟩ (Template.render Statements.grantAllToOwner
      (Fleet.objectsOwnerBindings exampleRecord exampleOwner)), .ok ()⟩,
    ⟨0, .commit ⟨0, exampleConnection⟩, .ok ()⟩,
    ⟨0, .put (StoreKeys.database "main" "app") exampleEnlisted.encode, .ok ()⟩]

/-- The deletion reads the record of the cluster and marks it. -/
def marks : List Event :=
  [readsCluster 1 "main" exampleRecord, ⟨1, .put (StoreKeys.cluster "main") exampleDeleted.encode, .ok ()⟩]

/-- It flushes what is cached. -/
def flushes (evicted : List (ConnectionKey × Connection)) : List Event :=
  ⟨1, .evict (.cluster "main"), evicted⟩ ::
    evicted.flatMap fun e => [⟨1, .tally .evicted, ()⟩, ⟨1, .close e.2, .ok ()⟩]

theorem wp_scripted_run {α : Type} {p : Op α} {result : Except BrokerError α} {events : List Event} :
    Program.wp Pool.scripted (fun a rest => a = result ∧ rest = []) p.run events ↔
      Op.wp Pool.scripted (fun a rest => .ok a = result ∧ rest = [])
        (fun e rest => .error e = result ∧ rest = []) p events := by
  have same : (fun a rest => a = result ∧ rest = [] : Except BrokerError α → List Event → Prop) =
      Op.Ended (fun a rest => .ok a = result ∧ rest = []) fun e rest => .error e = result ∧ rest = [] := by
    funext a rest
    cases a <;> rfl
  rw [Op.wp, same]

/-- The calls of an attempt to open a connection, which is offered to the cache at a generation. -/
def attempt (i : Nat) (key : ConnectionKey) (record : ClusterRecord) (generation : Nat) (conn : Connection)
    (placed : ConnectionCache.Placement) : List Event :=
  [⟨i, .find key, .missing generation⟩, readsCluster i key.cluster record, ⟨i, .connect conn.target, .ok conn⟩,
    ⟨i, .tally .opened, ()⟩, ⟨i, .keep key generation conn, placed⟩]

/-- An attempt takes five calls, where nothing is cached and nothing fails. What is left depends on what became of the
    connection. -/
theorem wp_scripted_attempt {i more : Nat} {key : ConnectionKey} {record : ClusterRecord} {conn : Connection}
    {placed : ConnectionCache.Placement} {ok : Connection → List Event → Prop} {fail : BrokerError → List Event → Prop}
    {generation : Nat} {rest : List Event}
    (leads : conn.target = record.target key.kind (key.database.getD record.database))
    (next : match placed with
      | .kept => ok conn rest
      | .present existing => ∃ later, rest = ⟨i, .close conn, .ok ()⟩ :: later ∧ ok existing later
      | .superseded => ∃ later, rest = ⟨i, .close conn, .ok ()⟩ :: later ∧
          Op.wp Pool.scripted ok fail (Connections.getWithin key more) later) :
    Op.wp Pool.scripted ok fail (Connections.getWithin key (more + 1))
      (attempt i key record generation conn placed ++ rest) := by
  refine (wp_bind_lift ..).2 ⟨i, _, _, rfl, ?_⟩
  refine wp_load ⟨i, _, _, rfl, _, some record, rfl, ⟨_, rfl, ClusterRecord.decode_encode _⟩, ?_⟩
  rw [leads]
  refine (wp_bind ..).2 ((wp_bind_ofSql ..).2 ⟨i, _, _, rfl, ?_⟩)
  refine (wp_bind_lift ..).2 ⟨i, _, _, rfl, ?_⟩
  refine (wp_bind_lift ..).2 ⟨i, _, _, rfl, ?_⟩
  cases placed with
  | kept => exact next
  | present existing =>
    obtain ⟨later, rfl, next⟩ := next
    exact (wp_bind_lift ..).2 ⟨i, _, _, rfl, next⟩
  | superseded =>
    obtain ⟨later, rfl, next⟩ := next
    exact (wp_bind_lift ..).2 ⟨i, _, _, rfl, next⟩

/-- A connection is got by the first attempt where nothing is cached and nothing fails. -/
theorem wp_scripted_get {key : ConnectionKey} {record : ClusterRecord} {conn : Connection}
    {ok : Connection → List Event → Prop} {fail : BrokerError → List Event → Prop} {generation : Nat} {rest : List Event}
    (leads : conn.target = record.target key.kind (key.database.getD record.database)) (next : ok conn rest) :
    Op.wp Pool.scripted ok fail (Connections.get key) (attempt 0 key record generation conn .kept ++ rest) :=
  wp_scripted_attempt leads next

/-- The registration does its part, at whatever generation it looks for a connection. -/
theorem wp_scripted_enlisting (generation : Nat) :
    Program.wp Pool.scripted (fun a rest => a = .ok none ∧ rest = []) (exampleCommands 0).op.run
      (checks ++ looks generation :: opens generation ++ provisions) := by
  have named : checkName "cluster" "main" = .ok () := check_of_isName (by decide +kernel)
  have named' : checkName "database" "app" = .ok () := check_of_isName (by decide +kernel)
  refine wp_scripted_run.2 (wp_unkept.2 (wp_passed named (wp_passed named' ?_)))
  refine wp_load ⟨0, _, _, rfl, _, some exampleRecord, rfl, ⟨_, rfl, ClusterRecord.decode_encode _⟩, ?_⟩
  refine wp_load ⟨0, _, _, rfl, _, none, rfl, rfl, ?_⟩
  refine (wp_bind_lift ..).2 ((wp_bind ..).2 ((wp_bind ..).2 ((wp_bind ..).2 (wp_scripted_get rfl ?_))))
  refine (wp_bind_lift ..).2 ?_
  refine ⟨0, _, _, rfl, (wp_bind_lift ..).2 ?_⟩
  refine ⟨0, _, _, rfl, 0, _, _, rfl, (wp_ofSql _).2 ⟨0, _, _, rfl, ?_⟩⟩
  exact (wp_bind_ofStore ..).2 ⟨0, _, _, rfl, rfl, rfl⟩

/-- The deletion does its part, whether there is nothing to flush or the connection of the registration. -/
theorem wp_scripted_deletion (evicted : List (ConnectionKey × Connection))
    (few : evicted = [] ∨ evicted = [(exampleKey, exampleConnection)]) :
    Program.wp Pool.scripted (fun a rest => a = .ok none ∧ rest = []) (exampleCommands 1).op.run
      (marks ++ flushes evicted) := by
  refine wp_scripted_run.2 (wp_unkept.2 ?_)
  refine (wp_bind ..).2 (wp_load ⟨1, _, _, rfl, _, some exampleRecord, rfl, ⟨_, rfl, ClusterRecord.decode_encode _⟩, ?_⟩)
  refine (wp_bind_ofStore ..).2 ⟨1, _, _, rfl, ?_⟩
  refine (wp_bind_lift ..).2 ⟨1, _, _, rfl, ?_⟩
  rcases few with rfl | rfl
  · exact ⟨rfl, rfl⟩
  · exact ⟨1, _, _, rfl, 1, _, _, rfl, rfl, rfl⟩

/-- Where both have their parts in a script, all commands come to their ends. -/
theorem reaches_of_parts {P : Surroundings → Prop} {events : List Event} {generation : Nat}
    {evicted : List (ConnectionKey × Connection)} (few : evicted = [] ∨ evicted = [(exampleKey, exampleConnection)])
    (playable : Pool.Playable exampleStart events) (stays : Pool.Throughout P exampleStart events)
    (first : events.filter (·.asker = 0) = checks ++ looks generation :: opens generation ++ provisions)
    (second : events.filter (·.asker = 1) = marks ++ flushes evicted) (two : ∀ e ∈ events, e.asker ≤ 1) :
    ∃ q, Pool.ReachesWithin P (pool exampleCommands exampleStart) q ∧ (∀ i, Idle q i) ∧ q.tasks 1 = .done (.ok none) ∧
      q.shared = Pool.played exampleStart events := by
  have enlisting := wp_scripted_enlisting generation
  have deletion := wp_scripted_deletion evicted few
  rw [← first] at enlisting
  rw [← second] at deletion
  obtain ⟨q, run, -, deleted, ended, reached⟩ := Pool.reachesWithin_of_two (p := pool exampleCommands exampleStart)
    playable stays enlisting deletion (fun _ => ⟨_, rfl⟩) two
  exact ⟨q, run, fun i => .inl (ended i), deleted, reached⟩

/-- The deletion comes to its end between the checks of the registration and its look-up. -/
def lateLookUp : List Event := checks ++ marks ++ flushes [] ++ looks 1 :: opens 1 ++ provisions

open RecordTask (example_cluster example_free)

theorem example_marked {record : String} :
    ((exampleValues.insert (StoreKeys.cluster "main") record).get? (StoreKeys.cluster "main")) = some record :=
  Table.get?_insert_self ..

theorem allows_connect {s : Surroundings} (unopened : s.opened = []) :
    s.Allows (.connect exampleConnection.target) (.ok exampleConnection) := by
  rintro _ ⟨⟩
  refine ⟨rfl, fun d member => ?_⟩
  rw [unopened] at member
  cases member

theorem allows_start {s : Surroundings} (unbegun : s.begun = []) :
    s.Allows (.start exampleConnection) (.ok ⟨0, exampleConnection⟩) := by
  rintro _ ⟨⟩
  refine ⟨rfl, fun d member => ?_⟩
  rw [unbegun] at member
  cases member

theorem playable_lateLookUp : Pool.Playable exampleStart lateLookUp := by
  refine ⟨allows_fetch example_cluster, allows_fetch example_free, allows_fetch example_cluster, trivial, rfl, ?_,
    allows_fetch example_marked, allows_connect rfl, trivial, ?_, allows_start rfl, trivial, trivial, trivial, trivial, trivial⟩
  · rfl
  · rfl

/-- A registration that has checked that its cluster is active, and looks for a connection only when the cluster was
    deleted and flushed, leaves a connection of the deleted cluster in the cache. Both succeed. -/
theorem late_look_up_caches_deleted : ∃ q, Pool.Reaches (pool exampleCommands exampleStart) q ∧
    (∀ i, (exampleCommands i).Accesses) ∧ (∀ i, Idle q i) ∧ q.tasks 1 = .done (.ok none) ∧
    (exampleKey, exampleConnection) ∈ q.shared.broker.cache.entries ∧ Subject.Concerns (.cluster "main") exampleKey ∧
    q.shared.Gone (.cluster "main") := by
  obtain ⟨q, run, idle, succeeded, reached⟩ := reaches_of_parts (P := fun _ => True) (.inl rfl) playable_lateLookUp
    (Pool.throughout_any _ _) rfl rfl (by decide)
  refine ⟨q, run.reaches, accesses_example, idle, succeeded, ?_, rfl, exampleDeleted.encode, ?_, ?_⟩
  · rw [reached]
    exact List.mem_singleton_self _
  · rw [reached]
    exact (Table.get?_insert_of_ne _ _ (StoreKeys.cluster_ne_own_database "main" "app")).trans example_marked
  · exact ⟨exampleDeleted, ClusterRecord.decode_encode _, rfl⟩

/-- The registration looks for a connection before the deletion, which then flushes it. -/
def earlyLookUp : List Event :=
  checks ++ looks 0 :: marks ++ opens 0 ++ flushes [(exampleKey, exampleConnection)] ++ provisions

theorem playable_earlyLookUp : Pool.Playable exampleStart earlyLookUp := by
  refine ⟨allows_fetch example_cluster, allows_fetch example_free, rfl, allows_fetch example_cluster, trivial,
    allows_fetch example_marked, allows_connect rfl, trivial, rfl, allows_start rfl, rfl, trivial, trivial, trivial, trivial,
    trivial, trivial, trivial⟩

theorem timely_of_found {s : Surroundings} {i : Nat} {c : Call} {r : c.Answer} (found : (Event.mk i c r).missed? = none) :
    Timely (s.after i c r) := by
  rintro _ _ key ⟨⟩ missed
  cases found.symm.trans missed

theorem throughout_timely_of_found {s : Surroundings} {events : List Event} (found : ∀ e ∈ events, e.missed? = none) :
    Pool.Throughout Timely s events := by
  induction events generalizing s with
  | nil => trivial
  | cons e rest ih =>
    exact ⟨timely_of_found (found e List.mem_cons_self), ih fun e' member => found e' (List.mem_cons_of_mem _ member)⟩

/-- Nothing that the connection concerns is deleted at first. -/
theorem not_gone_example {subject : Subject} (own : subject.Concerns exampleKey) : ¬exampleStart.Gone subject := by
  rintro ⟨text, stored, disabled⟩
  cases subject with
  | cluster name =>
    obtain rfl : "main" = name := Subject.concerns_cluster_iff.1 own
    obtain rfl : text = _ := Option.some.inj (stored.symm.trans example_cluster)
    obtain ⟨c, decoded, disabled⟩ := disabled
    obtain rfl : c = exampleRecord := Except.ok.inj (decoded.symm.trans (ClusterRecord.decode_encode _))
    cases disabled
  | database c name =>
    obtain ⟨rfl, same⟩ := Subject.concerns_database_iff.1 own
    obtain rfl : "app" = name := Option.some.inj same
    cases stored.symm.trans example_free

theorem timely_earlyLookUp : Pool.Throughout Timely exampleStart earlyLookUp := by
  have looked : Timely (Pool.played exampleStart (checks ++ [looks 0])) := by
    rintro _ _ key ⟨⟩ missed subject own
    obtain rfl : exampleKey = key := Option.some.inj missed
    exact not_gone_example own
  exact ⟨timely_of_found rfl, timely_of_found rfl, looked, throughout_timely_of_found (by decide)⟩

/-- A connection that was looked for in time may even be opened from the record of the deleted cluster, and is flushed. -/
theorem early_look_up_flushed : ∃ q, Pool.ReachesWithin Timely (pool exampleCommands exampleStart) q ∧
    (∀ i, Idle q i) ∧ q.shared.Gone (.cluster "main") ∧ exampleConnection ∈ q.shared.opened ∧
    ∀ c, (exampleKey, c) ∉ q.shared.broker.cache.entries := by
  obtain ⟨q, run, idle, -, reached⟩ :=
    reaches_of_parts (.inr rfl) playable_earlyLookUp timely_earlyLookUp rfl rfl (by decide)
  have gone : q.shared.Gone (.cluster "main") := by
    refine ⟨exampleDeleted.encode, ?_, exampleDeleted, ClusterRecord.decode_encode _, rfl⟩
    rw [reached]
    exact (Table.get?_insert_of_ne _ _ (StoreKeys.cluster_ne_own_database "main" "app")).trans example_marked
  obtain ⟨-, flushed⟩ := deleted_connections_flushed (by rintro _ _ _ ⟨⟩) run
  refine ⟨q, run, idle, gone, ?_, fun c cached => flushed accesses_example idle (.cluster "main") _ c cached rfl gone⟩
  rw [reached]
  exact List.mem_singleton_self _

end Scripts

end Command

end LeaseBroker
