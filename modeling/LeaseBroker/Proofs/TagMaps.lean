import Mathlib.Data.List.Nodup
import LeaseBroker.Proofs.ExactListings
import LeaseBroker.Proofs.HostRequests

/-!
The index of tags is a map from targets to tags. The map is read off what was
done (`Labels.of`): tags that are written stand in place of those that the
target had, an erasure takes away what has the id, and nothing else that the
broker does concerns the map, whatever becomes of a target. After every session
the store holds the map and no other tags (`Session.labelled`). That is an
induction over the session, and what carries it is that the id of a set tells
its target, for only what has a name can be given tags. Queries and listings
are read off the store, so that they answer from the map as well.
-/
namespace LeaseBroker

open Op
open Surroundings (alone Runs)

variable {i : Nat} {s t : Surroundings} {values : Table String} {log : List Entry}

/-! ## The map -/

/-- The tags of each cluster, and of each database of a cluster, that has any. -/
def Labels := String → Option String → Option (Table String)

namespace Labels

def empty : Labels := fun _ _ => none

/-- With these tags for a target, in place of any that it had. -/
def put (m : Labels) (cluster : String) (database : Option String) (tags : Table String) : Labels :=
  fun c d => if c = cluster ∧ d = database then some tags else m c d

/-- Without the target that has the id. -/
def drop (m : Labels) (id : String) : Labels := fun c d => if TagRecord.idOf c d = id then none else m c d

/-- What a command makes of the map. -/
def after (m : Labels) (e : Entry) : Labels :=
  match e.reply, e.command with
  | .ok _, .writeTags cluster database tags => m.put cluster database tags
  | .ok _, .eraseTags id => m.drop id
  | _, _ => m

/-- The map after commands, the latest first. -/
def of : List Entry → Labels
  | [] => empty
  | e :: earlier => (of earlier).after e

/-- The target of the record has the tags of the record. -/
def Has (m : Labels) (r : TagRecord) : Prop := m r.cluster r.database = some r.tags

/-- Of all keys of tags, the store has those of targets in the map, with their records. -/
def Held (m : Labels) (values : Table String) : Prop :=
  ∀ id text, values.get? (StoreKeys.tagSet id) = some text ↔ ∃ r : TagRecord, m.Has r ∧ r.id = id ∧ r.encode = text

/-- The names are those of the targets of one kind that have every pair of the query, each once. -/
def Finds (m : Labels) (target : TagTarget) (query : Table String) (names : List String) : Prop :=
  names.Nodup ∧ ∀ name, name ∈ names ↔ ∃ r : TagRecord, m.Has r ∧ r.target = target ∧ r.name = name ∧
    ∀ key value, query.get? key = some value → r.tags.get? key = some value

/-- Under each id are the tags of the target that has it, and there are no others. -/
def Lists (m : Labels) (listing : Table (Table String)) : Prop :=
  ∀ id tags, listing.get? id = some tags ↔ ∃ r : TagRecord, m.Has r ∧ r.id = id ∧ r.tags = tags

end Labels

/-! ## Targets and ids -/

namespace TagRecord

variable {r r' : TagRecord}

/-- An id begins with the kind of its target, and no slash comes after that. -/
theorem id_split (fit : r.Fit) : ∃ rest, r.id = r.target.text ++ "/" ++ rest ∧ '/' ∉ rest.toList := by
  obtain ⟨cluster, database, tags⟩ := r
  have bare := Names.slash_not_mem fit.cluster
  cases database with
  | none => exact ⟨cluster, by simp [id, idOf, target, TagTarget.text], bare⟩
  | some d =>
    refine ⟨cluster ++ ":" ++ d, ?_, ?_⟩
    · simp [id, idOf, target, TagTarget.text, ← String.append_assoc]
    · have bare' := Names.slash_not_mem (fit.database d rfl)
      simp [String.toList_append, bare, bare']

theorem target_of_id {target : TagTarget} {rest : String} (same : r.id = target.text ++ "/" ++ rest) :
    r.target = target := by
  obtain ⟨cluster, database, tags⟩ := r
  have begins := congrArg (fun id : String => id.toList.head?) same
  cases database <;> cases target <;> first
    | rfl
    | simp [id, idOf, TagTarget.text, String.toList_append] at begins

/-- Among targets of one kind the name tells which it is. -/
theorem id_of_name (fit : r.Fit) (fit' : r'.Fit) (kind : r.target = r'.target) (same : r.name = r'.name) :
    r.id = r'.id := by
  obtain ⟨cluster, database, tags⟩ := r
  obtain ⟨cluster', database', tags'⟩ := r'
  cases database with
  | none =>
    cases database' with
    | none =>
      obtain rfl : cluster = cluster' := same
      rfl
    | some d' => cases kind
  | some d =>
    cases database' with
    | none => cases kind
    | some d' =>
      have whole := congrArg String.toList same
      simp only [name, String.toList_append, List.append_assoc] at whole
      obtain ⟨first, second⟩ := append_cons_injective (Names.slash_not_mem fit.cluster) (Names.slash_not_mem fit'.cluster) whole
      obtain rfl := String.toList_injective first
      obtain rfl := String.toList_injective second
      rfl

theorem holds_iff {query : Table String} :
    r.holds query = true ↔ ∀ key value, query.get? key = some value → r.tags.get? key = some value := by
  simp [holds, Table.get?_eq_some_iff (t := query)]

end TagRecord

/-! ## The map in the store -/

/-- What lies under the key of tags is the record of the target that has the id. -/
theorem Filed.tags_fit {id text : String} {r : TagRecord} (filed : Filed (StoreKeys.tagSet id) text)
    (decoded : TagRecord.decode text = .ok r) : r.Fit ∧ r.id = id := by
  generalize same : StoreKeys.tagSet id = key at filed
  cases filed with
  | cluster => exact absurd same (StoreKeys.tagSet_ne_cluster _ _)
  | database => exact absurd same (StoreKeys.tagSet_ne_database _ _ _)
  | role => exact absurd same (StoreKeys.tagSet_ne_role _ _)
  | tags fit =>
    cases (TagRecord.decode_encode _).symm.trans decoded
    exact ⟨fit, (StoreKeys.tagSet_injective same).symm⟩

namespace Labels

variable {m : Labels} {r r' : TagRecord}

theorem held_empty : empty.Held Surroundings.blank.values := by
  intro id text
  constructor
  · rintro ⟨⟩
  · rintro ⟨r, has, -⟩
    cases has

namespace Held

variable (held : m.Held values)
include held

theorem loads_iff : Loads TagRecord.decode values (StoreKeys.tagSet r.id) (some r) ↔ m.Has r := by
  constructor
  · rintro ⟨text, found, decoded⟩
    obtain ⟨r', has, -, rfl⟩ := (held _ _).1 found
    cases r'.decode_encode.symm.trans decoded
    exact has
  · intro has
    exact ⟨r.encode, (held _ _).2 ⟨r, has, rfl, rfl⟩, r.decode_encode⟩

/-- What erases an id takes its target from the map. -/
theorem drop (id : String) : (m.drop id).Held (values.erase (StoreKeys.tagSet id)) := by
  intro id' text
  rw [Table.get?_erase]
  by_cases own : id' = id
  · subst own
    rw [if_pos rfl]
    constructor
    · rintro ⟨⟩
    · rintro ⟨r, has, same, -⟩
      rw [Has, Labels.drop, if_pos (by exact same)] at has
      cases has
  · rw [if_neg fun same => own (StoreKeys.tagSet_injective same), held]
    refine exists_congr fun r => and_congr_left fun ⟨same, _⟩ => ?_
    rw [Has, Has, Labels.drop, if_neg (by exact fun other => own (same.symm.trans other))]

section
variable (filed : WellFiled values)
include filed

theorem fit (has : m.Has r) : r.Fit :=
  ((filed _ _ ((held _ _).2 ⟨r, has, rfl, rfl⟩)).tags_fit r.decode_encode).1

/-- The id tells the target, and so its tags. -/
theorem unique (has : m.Has r) (has' : m.Has r') (same : r.id = r'.id) : r = r' := by
  obtain ⟨cluster, database⟩ := TagRecord.idOf_injective (held.fit filed has).cluster (held.fit filed has').cluster same
  rw [Has, cluster, database] at has
  have tags := Option.some.inj (has.symm.trans has')
  obtain ⟨_, _, _⟩ := r
  obtain ⟨_, _, _⟩ := r'
  cases cluster
  cases database
  cases tags
  rfl

/-- What writes tags puts them into the map. -/
theorem put (fit : r.Fit) :
    (m.put r.cluster r.database r.tags).Held (values.insert (StoreKeys.tagSet r.id) r.encode) := by
  intro id text
  rw [Table.get?_insert]
  by_cases own : id = r.id
  · subst own
    rw [if_pos rfl]
    constructor
    · intro same
      exact ⟨r, if_pos ⟨rfl, rfl⟩, rfl, Option.some.inj same⟩
    · rintro ⟨r', has, same, rfl⟩
      rw [Has, Labels.put] at has
      split at has
      · rename_i target
        obtain ⟨_, _, _⟩ := r
        obtain ⟨_, _, _⟩ := r'
        obtain ⟨rfl, rfl⟩ := target
        cases has
        rfl
      · rename_i other
        exact absurd (TagRecord.idOf_injective (held.fit filed has).cluster fit.cluster same) other
  · rw [if_neg fun same => own (StoreKeys.tagSet_injective same), held]
    refine exists_congr fun r' => and_congr_left fun ⟨same, _⟩ => ?_
    have other : ¬(r'.cluster = r.cluster ∧ r'.database = r.database) := by
      rintro ⟨cluster, database⟩
      exact own (same.symm.trans (congrArg₂ TagRecord.idOf cluster database))
    rw [Has, Has, Labels.put, if_neg other]

end

end Held

end Labels

/-! ## What is written -/

namespace TagIndex

/-- The record was stored under its id, which is the result, and nothing else was changed. -/
def Wrote (r : TagRecord) (s : Surroundings) (id : String) (t : Surroundings) : Prop :=
  id = r.id ∧ t.values = s.values.insert (StoreKeys.tagSet r.id) r.encode

theorem wp_write {cluster : String} {database : Option String} {tags : Table String} :
    Op.wp (alone i) (Wrote ⟨cluster, database, tags⟩ s) (fun _ _ => True) (write cluster database tags) s := by
  have storing {u : Surroundings} (same : u.values = s.values) :
      Op.wp (alone i) (Wrote ⟨cluster, database, tags⟩ s) (fun _ _ => True) (enter cluster database tags) u := by
    refine wp_checked (fun _ _ => trivial) fun _ _ => ?_
    refine (wp_bind_ofStore ..).2 (Surroundings.alone_iff.2 fun r _ => ?_)
    cases r with
    | error e => trivial
    | ok done => exact ⟨rfl, congrArg (Table.insert · _ _) same⟩
  refine wp_found wp_loadRecord (fun _ _ => trivial) (fun c t loaded => ?_) fun _ _ _ => trivial
  cases database with
  | none => exact storing loaded.1.values
  | some d =>
    exact wp_found wp_loadRecord (fun _ _ => trivial) (fun _ _ loaded' => storing (loaded'.1.values.trans loaded.1.values))
      fun _ _ _ => trivial

/-- To erase an id removes what lies under it and nothing else. -/
theorem wp_erase {id : String} : Op.wp (alone i) (fun _ t => t.values = s.values.erase (StoreKeys.tagSet id))
    (fun _ _ => True) (erase id) s := by
  unfold erase
  refine wp_unless trivial fun _ => (wp_ofStore _).2 (Surroundings.alone_iff.2 fun r _ => ?_)
  cases r with
  | error e => trivial
  | ok done => rfl

end TagIndex

namespace Labels

variable {m : Labels} {command : Command} {reply : Except BrokerError (Option Credential)}

/-- A command that is not about tags leaves them. -/
theorem Held.aside (held : m.Held s.values) {a : Option Credential}
    (run : Runs i command.op.run s (.ok a) t)
    (other : ∀ id left, ¬command.Alters s.values (StoreKeys.tagSet id) left) : m.Held t.values := by
  intro id text
  rcases Command.alters_of_succeeded run (StoreKeys.tagSet id) with same | altered
  · rw [same, held]
  · exact absurd altered (other id _)

/-- One command: if the store holds the map, then it holds what the command makes of the map. -/
theorem Held.step (held : m.Held s.values) (filed : WellFiled s.values) (filed' : WellFiled t.values)
    (run : Runs i command.op.run s reply t) : (m.after ⟨s, command, reply⟩).Held t.values := by
  cases reply with
  | error e => rwa [Command.values_of_failed run]
  | ok a =>
    cases command with
    | writeTags cluster database tags =>
      let record : TagRecord := { cluster, database, tags }
      obtain ⟨-, -, written⟩ := Command.of_wp_op (Q := fun t => ∃ id, TagIndex.Wrote record s id t) run
        (wp_unkept.2 (wp_mono TagIndex.wp_write (fun id _ wrote => ⟨id, wrote⟩) fun _ _ _ => trivial))
      have stored := Table.get?_insert_self s.values (StoreKeys.tagSet record.id) record.encode
      rw [← written] at stored
      rw [written]
      exact held.put filed ((filed' _ _ stored).tags_fit record.decode_encode).1
    | eraseTags id =>
      rw [Command.of_wp_op (Q := fun t => t.values = s.values.erase (StoreKeys.tagSet id)) run
        (wp_unkept.2 TagIndex.wp_erase)]
      exact held.drop id
    | registerCluster name request => exact held.aside run fun id _ altered => StoreKeys.tagSet_ne_cluster id name altered.1
    | deleteCluster name => exact held.aside run fun id _ altered => StoreKeys.tagSet_ne_cluster id name altered.1
    | purgeCluster name => exact held.aside run fun id _ altered => StoreKeys.tagSet_ne_cluster id name altered.1
    | cloneCluster source request =>
      refine held.aside run fun id _ altered => ?_
      rcases altered.1 with same | ⟨name, same, -⟩
      · exact StoreKeys.tagSet_ne_cluster id _ same
      · exact StoreKeys.tagSet_ne_database id _ name same
    | registerDatabase c name request => exact held.aside run fun id _ altered => StoreKeys.tagSet_ne_database id c name altered.1
    | deleteDatabase c name => exact held.aside run fun id _ altered => StoreKeys.tagSet_ne_database id c name altered.1
    | purgeDatabase c name => exact held.aside run fun id _ altered => StoreKeys.tagSet_ne_database id c name altered.1
    | writeRole limits name request => exact held.aside run fun id _ altered => StoreKeys.tagSet_ne_role id name altered
    | deleteRole name => exact held.aside run fun id _ altered => StoreKeys.tagSet_ne_role id name altered
    | issueCredential | renewCredential | revokeCredential | inquire | shutDown => exact held.aside run fun _ _ => id

end Labels

/-- After a session the store holds the map of what was done. -/
theorem Session.labelled (session : Session log s) : (Labels.of log).Held s.values := by
  induction session with
  | start => exact Labels.held_empty
  | next earlier run ih => exact ih.step earlier.wellFiled (earlier.next run).wellFiled run

/-! ## What is read -/

/-- A table of pairs, where a key determines its value, has those pairs. -/
theorem Table.get?_ofList_eq_some_iff {α : Type} {es : List (String × α)} {key : String} {value : α}
    (determined : ∀ k v v', (k, v) ∈ es → (k, v') ∈ es → v = v') :
    (ofList es).get? key = some value ↔ (key, value) ∈ es := by
  have placed (start : Table α) : (es.foldl (fun t e => t.insert e.1 e.2) start).get? key = some value ↔
      (key, value) ∈ es ∨ start.get? key = some value ∧ ∀ v, (key, v) ∉ es := by
    induction es generalizing start with
    | nil => simp
    | cons e es ih =>
      obtain ⟨k, v⟩ := e
      have later := ih fun k v v' member member' =>
        determined k v v' (List.mem_cons_of_mem _ member) (List.mem_cons_of_mem _ member')
      rw [List.foldl_cons, later, get?_insert]
      by_cases own : key = k
      · subst own
        rw [if_pos rfl]
        constructor
        · rintro (member | ⟨same, -⟩)
          · exact .inl (List.mem_cons_of_mem _ member)
          · exact .inl (Option.some.inj same ▸ List.mem_cons_self)
        · rintro (member | ⟨-, none⟩)
          · obtain rfl := determined _ _ _ member List.mem_cons_self
            by_cases again : ∃ w, (key, w) ∈ es
            · obtain ⟨w, among⟩ := again
              obtain rfl := determined _ _ _ (List.mem_cons_of_mem _ among) List.mem_cons_self
              exact .inl among
            · exact .inr ⟨rfl, fun w member => again ⟨w, member⟩⟩
          · exact absurd List.mem_cons_self (none v)
      · simp [own]
  rw [ofList, placed]
  refine ⟨fun found => found.resolve_right ?_, .inl⟩
  rintro ⟨⟨⟩, -⟩

namespace TagIndex

/-- Of the ids those are loaded under which there is something, in their order. -/
theorem wp_loadEach (filed : WellFiled s.values) (ids : List String) :
    Op.wp (alone i)
      (fun rs t => s.Untouched t ∧ (rs.map TagRecord.id).Sublist ids ∧
        ∀ r, r ∈ rs ↔ r.id ∈ ids ∧ Loads TagRecord.decode s.values (StoreKeys.tagSet r.id) (some r))
      (fun e _ => Unreached e) (loadEach ids) s := by
  induction ids generalizing s with
  | nil => exact ⟨.refl s, List.Sublist.slnil, fun r => by simp⟩
  | cons id ids ih =>
    obtain ⟨r?, loads⟩ := filed.readable_tags id
    refine wp_seq (wp_load_readable loads) (fun b? t loaded => ?_) fun _ _ h => h
    obtain ⟨same, rfl⟩ := loaded
    rw [← same.values] at filed loads ⊢
    refine wp_seq (ih filed) (fun rs u others => ?_) fun _ _ h => h
    obtain ⟨same', sublist, members⟩ := others
    refine ⟨same.trans same', ?_⟩
    cases b? with
    | none =>
      refine ⟨sublist.cons id, fun r => ?_⟩
      have missing : r.id = id → ¬Loads TagRecord.decode t.values (StoreKeys.tagSet r.id) (some r) := by
        rintro rfl ⟨text, found, -⟩
        cases found.symm.trans loads
      simp only [Option.toList_none, List.nil_append, members, List.mem_cons]
      exact ⟨fun ⟨member, stored⟩ => ⟨.inr member, stored⟩,
        fun ⟨member, stored⟩ => ⟨member.resolve_left fun same => missing same stored, stored⟩⟩
    | some first =>
      have ⟨text, found, decoded⟩ := loads
      obtain ⟨-, rfl⟩ := (filed _ _ found).tags_fit decoded
      refine ⟨sublist.cons_cons _, fun r => ?_⟩
      simp only [Option.toList_some, List.singleton_append, List.mem_cons, members]
      constructor
      · rintro (rfl | ⟨member, stored⟩)
        · exact ⟨.inl rfl, loads⟩
        · exact ⟨.inr member, stored⟩
      · rintro ⟨same | member, stored⟩
        · rw [same] at stored
          exact .inl (loads_unique stored loads)
        · exact .inr ⟨member, stored⟩

variable {m : Labels} (held : m.Held s.values) (filed : WellFiled s.values)
include held filed

/-- All of one kind that the map has are loaded, each once. -/
theorem wp_load (target : TagTarget) : Op.wp (alone i)
    (fun rs t => s.Untouched t ∧ (rs.map TagRecord.id).Nodup ∧ ∀ r, r ∈ rs ↔ m.Has r ∧ r.target = target)
    (fun e _ => Unreached e) (load target) s := by
  refine (wp_bind_ofStore ..).2 (Surroundings.alone_iff.2 fun listed given => ?_)
  have same : s.Untouched (s.after i (.list (StoreKeys.tagSet (target.text ++ "/"))) listed) :=
    Surroundings.untouched_after rfl
  cases listed with
  | error e => exact ⟨e, rfl⟩
  | ok entries =>
    obtain rfl := Surroundings.eq_of_gives given
    refine wp_mono (wp_loadEach (by rwa [same.values]) _) (fun rs t loaded => ?_) fun _ _ h => h
    obtain ⟨same', sublist, members⟩ := loaded
    refine ⟨same.trans same', sublist.nodup ?_, fun r => ?_⟩
    · refine List.Nodup.map (fun a b whole => ?_)
        ((MemoryStore.leaves_ascending ..).imp fun less => (String.ne_of_lt less))
      have chars := congrArg String.toList whole
      simp only [String.toList_append] at chars
      exact String.toList_injective (List.append_cancel_left chars)
    · rw [members, same.values, held.loads_iff, and_comm]
      refine and_congr_right fun has => ?_
      rw [List.mem_map]
      constructor
      · rintro ⟨rest, -, whole⟩
        exact TagRecord.target_of_id whole.symm
      · rintro rfl
        obtain ⟨rest, whole, bare⟩ := TagRecord.id_split (held.fit filed has)
        refine ⟨rest, MemoryStore.mem_leaves_children_iff.2 ⟨bare, r.encode, ?_⟩, whole.symm⟩
        have key : StoreKeys.tagSet (r.target.text ++ "/") ++ rest = StoreKeys.tagSet r.id := by
          rw [whole, StoreKeys.tagSet, StoreKeys.tagSet, String.append_assoc]
        exact key ▸ (held _ _).2 ⟨r, has, rfl, rfl⟩

/-- A query with pairs within the limits is answered from the map. -/
theorem reads_lookup {target : TagTarget} {query : Table String} (fine : checkTags query = .ok ()) :
    Reads i s (m.Finds target query) (lookup target query) := by
  refine .of_wp ?_ only_lookup (heeds_mono (heeds_lookup filed) fun _ _ _ => trivial)
  refine wp_passed fine (wp_seq (wp_load held filed target) (fun rs t loaded => ?_) fun _ _ h => h)
  obtain ⟨-, distinct, members⟩ := loaded
  have found {r : TagRecord} : r ∈ rs.filter (·.holds query) ↔ (m.Has r ∧ r.target = target) ∧ r.holds query = true := by
    rw [List.mem_filter, members]
  refine ⟨List.Nodup.map_on (fun r member r' member' same => ?_) (distinct.of_map.filter _), fun name => ?_⟩
  · obtain ⟨⟨has, kind⟩, -⟩ := found.1 member
    obtain ⟨⟨has', kind'⟩, -⟩ := found.1 member'
    exact held.unique filed has has'
      (TagRecord.id_of_name (held.fit filed has) (held.fit filed has') (kind.trans kind'.symm) same)
  · simp only [List.mem_map, found, TagRecord.holds_iff]
    refine exists_congr fun r => ?_
    constructor
    · rintro ⟨⟨⟨has, kind⟩, pairs⟩, named⟩
      exact ⟨has, kind, named, pairs⟩
    · rintro ⟨has, kind, named, pairs⟩
      exact ⟨⟨⟨has, kind⟩, pairs⟩, named⟩

/-- The listing is the map. -/
theorem reads_listing : Reads i s m.Lists listing := by
  refine .of_wp ?_ only_listing (heeds_mono (heeds_listing filed) fun _ _ _ => trivial)
  refine wp_seq (wp_load held filed .cluster) (fun clusters t loaded => ?_) fun _ _ h => h
  obtain ⟨same, -, clusters_iff⟩ := loaded
  rw [← same.values] at held filed
  refine wp_seq (wp_load held filed .database) (fun databases u loaded => ?_) fun _ _ h => h
  obtain ⟨-, -, databases_iff⟩ := loaded
  have all (r : TagRecord) : r ∈ clusters ++ databases ↔ m.Has r := by
    rw [List.mem_append, clusters_iff, databases_iff, ← and_or_left]
    cases r.target <;> simp
  intro id tags
  rw [Table.get?_ofList_eq_some_iff]
  · simp only [List.mem_map, all, Prod.mk.injEq]
  · intro k v v' member member'
    obtain ⟨r, first, pair⟩ := List.mem_map.1 member
    obtain ⟨r', second, pair'⟩ := List.mem_map.1 member'
    cases pair
    obtain ⟨same, rfl⟩ := Prod.mk.inj pair'
    rw [held.unique filed ((all r).1 first) ((all r').1 second) same.symm]

end TagIndex

end LeaseBroker
