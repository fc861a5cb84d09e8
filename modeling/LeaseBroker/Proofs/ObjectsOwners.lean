import LeaseBroker.Proofs.DeletedConnections
import LeaseBroker.Proofs.IssuedLogins
import LeaseBroker.Proofs.OwnerNames

/-!
Which owners databases are given for which none was asked, while any other
commands run. A registration that succeeds writes one record, and the owner in it
is made of the name of the database and a UUID that the registration drew
(`Enlists`). So two databases have one owner just where the same is left of their
names and UUIDs (`generated_owners`). Different UUIDs keep the owners of databases
with short names apart, but not those of long names.
-/
namespace LeaseBroker

open Op
open Names (ownerTail objectsOwner)

variable {α β : Type} {i j : Nat} {s t u : Surroundings} {c : Call} {r : c.Answer}

/-! ## What a caller writes -/

namespace Surroundings

/-- What a caller wrote, or tried to write, the latest first. -/
def wrote (i : Nat) (s : Surroundings) : List Event := s.history.filter fun e => e.asker = i ∧ e.call.writes

theorem wrote_after_self (writes : c.writes) : (s.after i c r).wrote i = ⟨i, c, r⟩ :: s.wrote i := by
  simp [wrote, writes]

theorem wrote_after_of_ne (other : i ≠ j) : (s.after i c r).wrote j = s.wrote j := by
  simp [wrote, other]

theorem wrote_after_of_not_writes (quiet : !c.writes) : (s.after i c r).wrote j = s.wrote j := by
  have none : c.writes = false := by simpa using quiet
  simp [wrote, none]

/-- Things may have happened meanwhile, but the caller has written nothing. -/
structure Meanwhile (i : Nat) (s t : Surroundings) : Prop where
  grown : s.history <:+ t.history
  wrote : t.wrote i = s.wrote i

theorem Meanwhile.refl (i : Nat) (s : Surroundings) : Meanwhile i s s := ⟨List.suffix_refl _, rfl⟩

theorem Meanwhile.trans (h : Meanwhile i s t) (h' : Meanwhile i t u) : Meanwhile i s u :=
  ⟨h.grown.trans h'.grown, h'.wrote.trans h.wrote⟩

theorem meanwhile_after (quiet : !c.writes) : Meanwhile i s (s.after i c r) :=
  ⟨List.suffix_cons .., wrote_after_of_not_writes quiet⟩

end Surroundings

open Surroundings (Meanwhile meanwhile_after)

namespace Pool

/-- For a program of caller `i` beside others, which write on their own account. -/
abbrev beside (i : Nat) : Program.Demands Surroundings := amid (fun _ => True) (fun _ => True) Meanwhile i

theorem beside_of {K : c.Answer → Surroundings → Prop}
    (h : ∀ t, Meanwhile i s t → ∀ r, t.Allows c r → K r (t.after i c r)) : beside i c K s := by
  intro t _ later r allowed _
  refine ⟨trivial, fun k other => ?_, h t later r allowed⟩
  exact ⟨List.suffix_cons .., Surroundings.wrote_after_of_ne other.symm⟩

theorem wp_beside_any (p : Program α) : Program.wp (beside i) (fun _ _ => True) p s := by
  induction p generalizing s with
  | done a => trivial
  | call c next ih => exact beside_of fun t _ r _ => ih r

/-- A part of an operation that writes nothing. -/
theorem wp_beside_bind {p : Op α} {f : α → Op β} {ok : β → Surroundings → Prop} (first : Op.Only (!·.writes) p)
    (rest : ∀ a t, Meanwhile i s t → Op.wp (beside i) ok (fun _ _ => True) (f a) t) :
    Op.wp (beside i) ok (fun _ _ => True) (p >>= f) s := by
  have unwritten : Op.wp (beside i) (fun _ t => Meanwhile i s t) (fun _ t => Meanwhile i s t) p s := by
    refine wp_of_only (I := Meanwhile i s) (fun c K t quiet before next => ?_) first (.refl i s)
    exact beside_of fun u later r _ => next r _ (before.trans (later.trans (meanwhile_after quiet)))
  exact wp_seq unwritten rest fun _ _ _ => trivial

end Pool

/-! ## A registration -/

/-- The record of a database whose owner was made up. -/
def enlistedWith (cluster name : String) (id : Uuid) : DatabaseRecord where
  cluster := cluster
  database := name
  objectsOwner := objectsOwner name id
  disabled := false

/-- From `s` to `t` a caller has drawn a UUID, and has written the record of a database with an owner made of it, and
    nothing else. -/
structure Enlists (i : Nat) (cluster name : String) (id : Uuid) (s t : Surroundings) : Prop where
  drawn : (i, id) ∈ t.uuids
  wrote : t.wrote i = ⟨i, .put (StoreKeys.database cluster name) (enlistedWith cluster name id).encode, .ok ()⟩ :: s.wrote i

theorem Enlists.later {cluster name : String} {id : Uuid} (h : Enlists i cluster name id s t) (later : Meanwhile i t u) :
    Enlists i cluster name id s u :=
  ⟨(later.grown.filterMap _).subset h.drawn, later.wrote.trans h.wrote⟩

namespace Fleet

open Pool (beside_of wp_beside_bind)

variable {cluster name : String} {request : DatabaseRequest}

/-- A caller that has drawn a UUID and has written nothing stores the record that it makes of it. -/
theorem wp_storing_beside {id : Uuid} (drawn : (i, id) ∈ t.uuids) (before : Meanwhile i s t) :
    Op.wp (Pool.beside i) (fun _ u => ∃ id, Enlists i cluster name id s u) (fun _ _ => True)
      (do
        saveDatabase cluster name (enlistedWith cluster name id)
        return { value := enlistedWith cluster name id } : Op (Outcome DatabaseRecord)) t := by
  refine (wp_bind_ofStore ..).2 (beside_of fun u later r _ => ?_)
  cases r with
  | error e => trivial
  | ok done =>
    refine ⟨id, ?_, ?_⟩
    · exact ((later.grown.trans (List.suffix_cons ..)).filterMap _).subset drawn
    · have own := Surroundings.wrote_after_self (i := i) (s := u)
        (c := .put (StoreKeys.database cluster name) (enlistedWith cluster name id).encode) (r := .ok ()) rfl
      exact own.trans (congrArg (List.cons _) (later.wrote.trans before.wrote))

/-- A registration that succeeds and does not ask for an owner. -/
theorem wp_registerDatabase_beside (unnamed : request.objectsOwner = "") :
    Op.wp (Pool.beside i) (fun _ t => ∃ id, Enlists i cluster name id s t) (fun _ _ => True)
      (registerDatabase cluster name request) s := by
  have getting (key : ConnectionKey) : Op.Only (!·.writes) (Connections.get key) := Connections.only_getWithin _
  have load {α : Type} {decode : String → Except String α} {key : String} : Op.Only (!·.writes) (loadRecord decode key) :=
    calls_loadRecord rfl
  refine wp_beside_bind (only_ofRefusal _) fun _ t later => wp_beside_bind (only_ofRefusal _) fun _ t later' => ?_
  replace later := later.trans later'
  refine wp_beside_bind load fun c? t later' => ?_
  replace later := later.trans later'
  cases c? with
  | none => trivial
  | some c =>
    refine wp_unless trivial fun _ => wp_beside_bind load fun d? t later' => ?_
    replace later := later.trans later'
    cases d? with
    | some d => trivial
    | none =>
      unfold chooseOwner
      dsimp only
      rw [unnamed]
      refine (wp_bind_lift ..).2 (beside_of fun t later' id _ => ?_)
      have drawn : (i, id) ∈ (t.after i .uuid id).uuids := Surroundings.mem_uuids List.mem_cons_self
      replace later := (later.trans later').trans (meanwhile_after (c := .uuid) (r := id) rfl)
      cases request.provision with
      | false => exact wp_storing_beside drawn later
      | true =>
        have provisioning {record : ClusterRecord} {owner : String} {createDatabase : Bool} :
            Op.Only (!·.writes) (provisionDatabase record cluster name owner createDatabase) := by
          refine calls_provisionDatabase (fun key _ => getting key) fun c server => c.not_writes_of_works ?_
          cases c <;> first | rfl | cases server
        refine wp_beside_bind provisioning fun _ u later' => wp_storing_beside ?_ (later.trans later')
        exact (later'.grown.filterMap _).subset drawn

end Fleet

/-! ## Registrations in a run of many commands -/

namespace Command

variable {p q : Pool (Except BrokerError (Option Credential))}

/-- In a run from `p` to `q`, a caller has registered a database without asking for an owner. -/
structure Enlisted (p q : Pool (Except BrokerError (Option Credential))) (i : Nat) (cluster name : String) : Prop where
  asked : ∃ request : DatabaseRequest, request.objectsOwner = "" ∧ p.tasks i = (registerDatabase cluster name request).op.run
  succeeded : ∃ a, q.tasks i = .done (.ok a)

theorem Enlisted.enlists {cluster name : String} (run : Pool.Reaches p q) (h : Enlisted p q i cluster name) :
    ∃ id, Enlists i cluster name id p.shared q.shared := by
  obtain ⟨⟨request, unnamed, asked⟩, a, succeeded⟩ := h
  have registers : Op.wp (Pool.beside i) (fun _ t => ∃ id, Enlists i cluster name id p.shared t) (fun _ _ => True)
      (p.tasks i) p.shared := by
    rw [asked]
    exact wp_unkept.2 (Fleet.wp_registerDatabase_beside unnamed)
  have lasts (reply : Except BrokerError (Option Credential)) (s t : Surroundings) (later : Meanwhile i s t)
      (ended : Op.Ended (fun _ t => ∃ id, Enlists i cluster name id p.shared t) (fun _ _ => True) reply s) :
      Op.Ended (fun _ t => ∃ id, Enlists i cluster name id p.shared t) (fun _ _ => True) reply t := by
    cases reply with
    | ok b => exact ended.imp fun id enlists => enlists.later later
    | error e => trivial
  obtain ⟨-, ended⟩ := run.within.safe_own Meanwhile.refl (fun _ _ _ _ => Meanwhile.trans) lasts trivial registers
    fun _ => Pool.wp_beside_any _
  rw [succeeded] at ended
  exact ended

/-- A database that is registered without an owner gets one that is made of its name and a UUID of its own. Where UUIDs are
    not drawn twice, two databases have different owners if their names are short; in general they have one owner just
    where the same fits of both names and UUIDs. Databases of one name in two clusters have different owners just where
    their UUIDs differ in what the name leaves of them, which is nothing if it has 53 octets or more. -/
theorem generated_owners (run : Pool.Reaches p q) :
    (∀ i cluster name, Enlisted p q i cluster name → ∃ id, Enlists i cluster name id p.shared q.shared) ∧
    ((q.shared.uuids.map Prod.snd).Nodup → ∀ i j cluster cluster' name name' id id', i ≠ j →
      Enlists i cluster name id p.shared q.shared → Enlists j cluster' name' id' p.shared q.shared →
        id ≠ id' ∧
        (Octets.size name.toList ≤ 17 → Octets.size name'.toList ≤ 17 → objectsOwner name id ≠ objectsOwner name' id') ∧
        (objectsOwner name id = objectsOwner name' id' ↔
          Octets.fitting 54 (ownerTail name id) = Octets.fitting 54 (ownerTail name' id')) ∧
        (name = name' → (objectsOwner name id = objectsOwner name' id' ↔
          id.chars.take (53 - Octets.size name.toList) = id'.chars.take (53 - Octets.size name.toList)))) := by
  refine ⟨fun i cluster name enlisted => enlisted.enlists run, ?_⟩
  intro distinct i j cluster cluster' name name' id id' other enlists enlists'
  have unlike : id ≠ id' := fun same =>
    other (congrArg Prod.fst (List.inj_on_of_nodup_map distinct enlists.drawn enlists'.drawn same))
  refine ⟨unlike, fun short short' => Names.objectsOwner_ne_of_short short short' unlike, Names.objectsOwner_eq_iff, ?_⟩
  rintro rfl
  exact Names.objectsOwner_eq_iff_take

/-! ### Two databases with one owner -/

open ClusterRecord (exampleRecord)
open CacheTask (exampleValues)
open RecordTask (readsCluster readsDatabase example_cluster)

def longName : String := "ledger-of-invoices-and-payments-of-the-northern-division-a"

def longName' : String := "ledger-of-invoices-and-payments-of-the-northern-division-b"

/-- A caller registers a database in an active cluster that has none of its name, and draws a UUID. -/
def enlists (i : Nat) (name : String) (id : Uuid) : List Event :=
  [readsCluster i "main" exampleRecord, readsDatabase i "main" name none, ⟨i, .uuid, id⟩,
    ⟨i, .put (StoreKeys.database "main" name) (enlistedWith "main" name id).encode, .ok ()⟩]

theorem wp_scripted_enlists {name : String} (named : Names.isName name) (id : Uuid) :
    Program.wp Pool.scripted (fun a rest => a = .ok none ∧ rest = [])
      (registerDatabase "main" name .recordOnly).op.run (enlists i name id) := by
  have passed : checkName "cluster" "main" = .ok () := check_of_isName (by decide +kernel)
  refine wp_scripted_run.2 (wp_unkept.2 (wp_passed passed (wp_passed (check_of_isName named) ?_)))
  refine wp_load ⟨i, _, _, rfl, _, some exampleRecord, rfl, ⟨_, rfl, ClusterRecord.decode_encode _⟩, ?_⟩
  refine wp_load ⟨i, _, _, rfl, _, none, rfl, rfl, ?_⟩
  refine (wp_bind_lift ..).2 ⟨i, _, _, rfl, ?_⟩
  exact (wp_bind_ofStore ..).2 ⟨i, _, _, rfl, rfl, rfl⟩

/-- Two callers register a database each. The others are refused at once. -/
def longCommands : Nat → Command
  | 0 => .registerDatabase "main" longName .recordOnly
  | 1 => .registerDatabase "main" longName' .recordOnly
  | _ => .registerDatabase "" "" {}

/-- Databases whose names are long and begin alike get one owner, though their UUIDs are different. -/
theorem generated_owners_shared : ∃ q, Pool.Reaches (pool longCommands exampleStart) q ∧
    (q.shared.uuids.map Prod.snd).Nodup ∧ Enlisted (pool longCommands exampleStart) q 0 "main" longName ∧
    Enlisted (pool longCommands exampleStart) q 1 "main" longName' ∧
    ∃ id id', Enlists 0 "main" longName id exampleStart q.shared ∧ Enlists 1 "main" longName' id' exampleStart q.shared ∧
      id ≠ id' ∧ objectsOwner longName id = objectsOwner longName' id' := by
  have named : Names.isName longName := by decide +kernel
  have named' : Names.isName longName' := by decide +kernel
  have free (name : String) : exampleValues.get? (StoreKeys.database "main" name) = none :=
    Table.get?_insert_of_ne _ _ (StoreKeys.cluster_ne_own_database "main" name).symm
  have other : StoreKeys.database "main" longName' ≠ StoreKeys.database "main" longName := by
    intro same
    obtain ⟨-, equal⟩ := StoreKeys.database_injective (Names.slash_not_mem (by decide +kernel)) (Names.slash_not_mem named) same
    exact absurd equal (by decide)
  have playable : Pool.Playable exampleStart (enlists 0 longName 0 ++ enlists 1 longName' 1) := by
    open Surroundings (allows_fetch) in
    refine ⟨allows_fetch example_cluster, allows_fetch (free _), trivial, trivial, allows_fetch ?_, allows_fetch ?_,
      trivial, trivial, trivial⟩
    · exact (Table.get?_insert_of_ne _ _ (StoreKeys.cluster_ne_own_database "main" longName)).trans example_cluster
    · exact (Table.get?_insert_of_ne _ _ other).trans (free _)
  obtain ⟨q, run, ended, ended', -, reached⟩ := Pool.reachesWithin_of_two (p := pool longCommands exampleStart) playable
    (Pool.throughout_any _ _) (wp_scripted_enlists named 0) (wp_scripted_enlists named' 1) (fun _ => ⟨_, rfl⟩) (by decide)
  replace run := run.reaches
  have distinct : (q.shared.uuids.map Prod.snd).Nodup := by
    rw [reached]
    show [(1 : Uuid), 0].Nodup
    decide
  have enlisted : Enlisted (pool longCommands exampleStart) q 0 "main" longName := ⟨⟨_, rfl, rfl⟩, none, ended⟩
  have enlisted' : Enlisted (pool longCommands exampleStart) q 1 "main" longName' := ⟨⟨_, rfl, rfl⟩, none, ended'⟩
  obtain ⟨each, both⟩ := generated_owners run
  obtain ⟨id, first⟩ := each 0 "main" longName enlisted
  obtain ⟨id', second⟩ := each 1 "main" longName' enlisted'
  obtain ⟨unlike, -, owners, -⟩ := both distinct 0 1 _ _ _ _ id id' (by decide) first second
  refine ⟨q, run, distinct, enlisted, enlisted', id, id', first, second, unlike, owners.2 ?_⟩
  have begins : Octets.fitting 54 longName.toList = Octets.fitting 54 longName'.toList := by decide +kernel
  have long : 54 < Octets.size longName.toList := by decide +kernel
  have long' : 54 < Octets.size longName'.toList := by decide +kernel
  rw [ownerTail, ownerTail, Octets.fitting_append_of_lt long, Octets.fitting_append_of_lt long', begins]

end Command

end LeaseBroker
