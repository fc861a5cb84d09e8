import LeaseBroker.Proofs.StoredRecords

/-!
What a listing names. The keys of a table ascend, so those below one key stand
together and the scan of a listing misses none of them: the entries that are
values are exactly the names of one part under which something is stored. For
clusters that are all that were registered, deleted ones too.
-/
namespace LeaseBroker

open Op
open Surroundings (alone Untouched)

/-- A table that is made of entries has their keys. -/
theorem Table.mem_keys_ofList_iff {α : Type} {es : List (String × α)} {key : String} :
    key ∈ (ofList es).keys ↔ ∃ v, (key, v) ∈ es := by
  have placed (start : Table α) : key ∈ (es.foldl (fun t e => t.insert e.1 e.2) start).keys ↔
      key ∈ start.keys ∨ ∃ v, (key, v) ∈ es := by
    induction es generalizing start with
    | nil => simp
    | cons e es ih =>
      obtain ⟨k, v⟩ := e
      rw [List.foldl_cons, ih, mem_keys_iff, mem_keys_iff, get?_insert]
      by_cases own : key = k
      · subst own
        simp
      · simp [own]
  rw [ofList, placed]
  simp [keys, empty]

namespace MemoryStore

/-- In the order of texts nothing comes between a text and those it begins but others that it begins. -/
theorem prefix_of_between {lead key : List Char} (rest : List Char) (low : ¬key < lead) (high : ¬lead ++ rest < key) :
    lead <+: key := by
  induction lead generalizing key with
  | nil => exact List.nil_prefix
  | cons c lead ih =>
    cases key with
    | nil => exact absurd (List.nil_lt_cons c lead) low
    | cons d key =>
      rw [List.cons_lt_cons_iff, not_or, not_and] at low
      rw [List.cons_append, List.cons_lt_cons_iff, not_or, not_and] at high
      obtain rfl : c = d := Char.le_antisymm (Char.not_lt.1 low.1) (Char.not_lt.1 high.1)
      exact List.cons_prefix_cons.2 ⟨rfl, ih (low.2 rfl) (high.2 rfl)⟩

theorem not_append_lt (lead rest : List Char) : ¬lead ++ rest < lead := by
  induction lead with
  | nil => exact List.not_lt_nil rest
  | cons c lead ih =>
    rw [List.cons_append, List.cons_lt_cons_iff, not_or, not_and]
    exact ⟨Char.lt_irrefl c, fun _ => ih⟩

theorem child?_eq_some_iff {above key c : String} :
    child? above key = some c ↔ ∃ rest : List Char, key.toList = above.toList ++ rest ∧ c = String.ofList (upToSlash rest) := by
  simp only [child?, Option.map_eq_some_iff, Search.after?_eq_some_iff, eq_comm (b := c)]

/-- Nothing that begins with a text is below it. -/
theorem not_lt_of_child? {above key c : String} (reached : child? above key = some c) : ¬key < above := by
  obtain ⟨rest, split, -⟩ := child?_eq_some_iff.1 reached
  rw [String.lt_iff, split]
  exact not_append_lt above.toList rest

/-- After a key that is neither below a text nor begins with it, no key begins with it. -/
theorem child?_eq_none_of_lt {above key key' : String} (low : ¬key < above) (missing : child? above key = none)
    (less : key < key') : child? above key' = none := by
  refine Option.eq_none_iff_forall_ne_some.2 fun c reached => ?_
  obtain ⟨rest, split, -⟩ := child?_eq_some_iff.1 reached
  have between : above.toList <+: key.toList := by
    refine prefix_of_between rest (fun before => low (String.lt_iff.2 before)) fun after => ?_
    rw [← split] at after
    exact String.lt_asymm less (String.lt_iff.2 after)
  obtain ⟨rest', split'⟩ := between
  cases missing.symm.trans (child?_eq_some_iff.2 ⟨rest', split'.symm, rfl⟩)

/-- A scan may stop at the first key that is not below `above`. -/
theorem childrenFrom_eq_filterMap {above : String} {keys : List String} (ascending : keys.Pairwise (· < ·))
    (low : ∀ key ∈ keys, ¬key < above) : childrenFrom above keys = keys.filterMap (child? above) := by
  induction keys with
  | nil => rfl
  | cons key keys ih =>
    obtain ⟨first, ascending⟩ := List.pairwise_cons.1 ascending
    rw [childrenFrom]
    cases reached : child? above key with
    | some c =>
      rw [List.filterMap_cons_some reached, ih ascending fun k member => low k (List.mem_cons_of_mem _ member)]
    | none =>
      have others : keys.filterMap (child? above) = [] := List.filterMap_eq_nil_iff.2 fun k later =>
        child?_eq_none_of_lt (low key List.mem_cons_self) reached (first k later)
      rw [List.filterMap_cons_none reached, others]

/-- Where the keys ascend, those that are not below one stand together at the end. -/
theorem not_lt_of_mem_dropWhile {above key : String} {keys : List String} (ascending : keys.Pairwise (· < ·))
    (h : key ∈ keys.dropWhile (· < above)) : ¬key < above := by
  induction keys with
  | nil => cases h
  | cons k keys ih =>
    obtain ⟨first, ascending⟩ := List.pairwise_cons.1 ascending
    rw [List.dropWhile_cons] at h
    split at h
    · exact ih ascending h
    · rename_i high
      have high : ¬k < above := by simpa using high
      rcases List.mem_cons.1 h with rfl | later
      · exact high
      · exact fun less => high (String.lt_trans (first key later) less)

/-- The scan of a listing finds what looking at every key would find. -/
theorem scan_eq_filterMap (values : Table String) (above : String) :
    childrenFrom above (values.keys.dropWhile (· < above)) = values.keys.filterMap (child? above) := by
  have ascending := values.keys_ascending
  have before : (values.keys.takeWhile (· < above)).filterMap (child? above) = [] := by
    refine List.filterMap_eq_nil_iff.2 fun key early => Option.eq_none_iff_forall_ne_some.2 fun c reached => ?_
    exact not_lt_of_child? reached (by simpa using List.all_eq_true.1 List.all_takeWhile key early)
  rw [childrenFrom_eq_filterMap (ascending.sublist (List.dropWhile_sublist _)) fun _ => not_lt_of_mem_dropWhile ascending]
  calc (values.keys.dropWhile (· < above)).filterMap (child? above)
    _ = (values.keys.takeWhile (· < above) ++ values.keys.dropWhile (· < above)).filterMap (child? above) := by
      rw [List.filterMap_append, before, List.nil_append]
    _ = values.keys.filterMap (child? above) := by rw [List.takeWhile_append_dropWhile]

/-- A listing gives what is reached by some key, whatever else is stored. -/
theorem mem_children_iff {values : Table String} {above c : String} :
    c ∈ children values above ↔ ∃ key text, values.get? key = some text ∧ child? above key = some c := by
  have listed : c ∈ children values above ↔ c ∈ childrenFrom above (values.keys.dropWhile (· < above)) := by
    refine Table.mem_keys_ofList_iff.trans ⟨fun ⟨_, member⟩ => ?_, fun member => ⟨(), List.mem_map.2 ⟨c, member, rfl⟩⟩⟩
    obtain ⟨d, found, same⟩ := List.mem_map.1 member
    exact (Prod.mk.inj same).1 ▸ found
  rw [listed, scan_eq_filterMap, List.mem_filterMap]
  constructor
  · rintro ⟨key, member, reached⟩
    obtain ⟨text, stored⟩ := Table.mem_keys_iff.1 member
    exact ⟨key, text, stored, reached⟩
  · rintro ⟨key, text, stored, reached⟩
    exact ⟨key, Table.mem_keys_iff.2 ⟨text, stored⟩, reached⟩

theorem children_ascending (values : Table String) (above : String) : (children values above).Pairwise (· < ·) :=
  Table.keys_ascending _

/-! ### Entries -/

theorem upToSlash_of_bare {cs : List Char} (bare : '/' ∉ cs) : upToSlash cs = cs := by
  induction cs with
  | nil => rfl
  | cons c cs ih =>
    rw [List.mem_cons, not_or] at bare
    rw [upToSlash, if_neg (Ne.symm bare.1), ih bare.2]

theorem upToSlash_append {name : List Char} (bare : '/' ∉ name) (more : List Char) :
    upToSlash (name ++ '/' :: more) = name ++ ['/'] := by
  induction name with
  | nil => rfl
  | cons c name ih =>
    rw [List.mem_cons, not_or] at bare
    rw [List.cons_append, upToSlash, if_neg (Ne.symm bare.1), ih bare.2, List.cons_append]

/-- A key is bare, or there is a bare name before its first slash. -/
theorem bare_or_split (cs : List Char) : '/' ∉ cs ∨ ∃ name more, '/' ∉ name ∧ cs = name ++ '/' :: more := by
  by_cases slash : '/' ∈ cs
  · obtain ⟨name, more, split, bare⟩ := List.eq_append_cons_of_mem slash
    exact .inr ⟨name, more, bare, split⟩
  · exact .inl slash

/-- A name without a slash is listed where something is stored under it. -/
theorem mem_children_of_bare {values : Table String} {above name : String} (bare : '/' ∉ name.toList) :
    name ∈ children values above ↔ ∃ text, values.get? (above ++ name) = some text := by
  simp only [mem_children_iff, child?_eq_some_iff]
  constructor
  · rintro ⟨key, text, stored, rest, split, rfl⟩
    rcases bare_or_split rest with plain | ⟨first, more, plain, rfl⟩
    · have same : above ++ String.ofList rest = key := String.toList_injective (by simp [split])
      rw [upToSlash_of_bare plain, same]
      exact ⟨text, stored⟩
    · rw [upToSlash_append plain] at bare
      simp at bare
  · rintro ⟨text, stored⟩
    refine ⟨above ++ name, text, stored, name.toList, String.toList_append, ?_⟩
    rw [upToSlash_of_bare bare, String.ofList_toList]

/-- It is listed with a slash where there are keys below it. -/
theorem mem_children_slash_iff {values : Table String} {above name : String} (bare : '/' ∉ name.toList) :
    name ++ "/" ∈ children values above ↔
      ∃ key text, values.get? key = some text ∧ (above ++ name ++ "/").toList <+: key.toList := by
  simp only [mem_children_iff, child?_eq_some_iff]
  constructor
  · rintro ⟨key, text, stored, rest, split, same⟩
    have entry : name.toList ++ ['/'] = upToSlash rest := by simpa using congrArg String.toList same
    rcases bare_or_split rest with plain | ⟨first, more, plain, rfl⟩
    · rw [upToSlash_of_bare plain] at entry
      rw [← entry] at plain
      simp at plain
    · rw [upToSlash_append plain] at entry
      exact ⟨key, text, stored, more, by simp [split, List.append_cancel_right entry]⟩
  · rintro ⟨key, text, stored, more, split⟩
    refine ⟨key, text, stored, name.toList ++ '/' :: more, by simp [← split], ?_⟩
    rw [upToSlash_append bare]
    exact String.toList_injective (by simp)

/-- Nothing else is listed. -/
theorem bare_of_mem_children {values : Table String} {above entry : String} (member : entry ∈ children values above) :
    ∃ name : String, '/' ∉ name.toList ∧ (entry = name ∨ entry = name ++ "/") := by
  obtain ⟨key, text, -, reached⟩ := mem_children_iff.1 member
  obtain ⟨rest, -, rfl⟩ := child?_eq_some_iff.1 reached
  rcases bare_or_split rest with plain | ⟨first, more, plain, rfl⟩
  · exact ⟨String.ofList rest, by simpa using plain, .inl (by rw [upToSlash_of_bare plain])⟩
  · refine ⟨String.ofList first, by simpa using plain, .inr (String.toList_injective ?_)⟩
    simp [upToSlash_append plain]

theorem isSubtree_slash (name : String) : StoreKeys.isSubtree (name ++ "/") := by simp [StoreKeys.isSubtree]

theorem not_isSubtree_of_bare {name : String} (bare : '/' ∉ name.toList) : StoreKeys.isSubtree name = false :=
  beq_eq_false_iff_ne.2 fun last => bare (List.mem_of_getLast? last)

/-- The entries of a listing that are values are the names without a slash under which something is stored. -/
theorem mem_leaves_children_iff {values : Table String} {above name : String} :
    name ∈ StoreKeys.leaves (children values above) ↔
      '/' ∉ name.toList ∧ ∃ text, values.get? (above ++ name) = some text := by
  rw [StoreKeys.leaves, List.mem_filter]
  constructor
  · rintro ⟨member, leaf⟩
    obtain ⟨first, bare, rfl | rfl⟩ := bare_of_mem_children member
    · exact ⟨bare, (mem_children_of_bare bare).1 member⟩
    · rw [isSubtree_slash] at leaf
      cases leaf
  · rintro ⟨bare, stored⟩
    exact ⟨(mem_children_of_bare bare).2 stored, by rw [not_isSubtree_of_bare bare]; rfl⟩

/-- Those names are listed whose records can be read, where all can that lie under keys of this kind. -/
theorem mem_leaves_iff_loads {α : Type} {values : Table String} {decode : String → Except String α} {above name : String}
    (readable : '/' ∉ name.toList → ∃ a?, Loads decode values (above ++ name) a?)
    (bare : ∀ a, Loads decode values (above ++ name) (some a) → '/' ∉ name.toList) :
    name ∈ StoreKeys.leaves (children values above) ↔ ∃ a, Loads decode values (above ++ name) (some a) := by
  rw [mem_leaves_children_iff]
  constructor
  · rintro ⟨noSlash, text, found⟩
    obtain ⟨a?, loads⟩ := readable noSlash
    cases a? with
    | none => cases found.symm.trans loads
    | some a => exact ⟨a, loads⟩
  · rintro ⟨a, loads⟩
    exact ⟨bare a loads, loads.choose, loads.choose_spec.1⟩

end MemoryStore

/-! ## Clusters -/

section
variable {α : Type} {i : Nat} {s : Surroundings}

/-- Only the store can fail. -/
def Unreached (e : BrokerError) : Prop := ∃ failure, e = .store failure

/-- To load what can be read fails only where the store does. -/
theorem wp_load_readable {decode : String → Except String α} {key : String} {a? : Option α}
    (loads : Loads decode s.values key a?) :
    Op.wp (alone i) (fun b? t => s.Untouched t ∧ b? = a?) (fun e _ => Unreached e) (loadRecord decode key) s := by
  refine (wp_bind_ofStore ..).2 (Surroundings.alone_iff.2 fun r given => ?_)
  have later : s.Untouched (s.after i (.fetch key) r) := Surroundings.untouched_after rfl
  cases r with
  | error e => exact ⟨e, rfl⟩
  | ok text? =>
    obtain rfl : text? = s.values.get? key := Surroundings.eq_of_gives given
    cases a? with
    | none =>
      have missing : s.values.get? key = none := loads
      rw [missing] at later ⊢
      exact ⟨later, rfl⟩
    | some a =>
      obtain ⟨text, found, decoded⟩ := loads
      rw [found] at later ⊢
      dsimp only [Program.wp, Except.mapError, Op.Ended]
      rw [decoded]
      exact ⟨later, rfl⟩

theorem wp_children {above : String} : Op.wp (alone i)
    (fun names t => s.Untouched t ∧ names = StoreKeys.leaves (MemoryStore.children s.values above))
    (fun e _ => Unreached e) (do return StoreKeys.leaves (← ofStore (Program.list above)) : Op (List String)) s := by
  refine (wp_bind_ofStore ..).2 (Surroundings.alone_iff.2 fun r given => ?_)
  cases r with
  | error e => exact ⟨e, rfl⟩
  | ok entries => exact ⟨Surroundings.untouched_after rfl, congrArg StoreKeys.leaves (Surroundings.eq_of_gives given)⟩

/-- Of names whose records can be read, those stay that are deleted. -/
theorem Reclaim.wp_deletedAmong {decode : String → Except String α} {key : String → String} {disabled : α → Bool}
    {names : List String} (readable : ∀ name ∈ names, ∃ a?, Loads decode s.values (key name) a?) :
    Op.wp (alone i)
      (fun left _ => ∀ name, name ∈ left ↔ name ∈ names ∧ ∃ a, Loads decode s.values (key name) (some a) ∧ disabled a = true)
      (fun e _ => Unreached e) (deletedAmong (fun name => loadRecord decode (key name)) disabled names) s := by
  induction names generalizing s with
  | nil => exact fun name => by simp
  | cons first names ih =>
    obtain ⟨a?, loads⟩ := readable first List.mem_cons_self
    refine wp_seq (wp_load_readable loads) (fun b? t loaded => ?_) fun _ _ h => h
    obtain ⟨same, rfl⟩ := loaded
    rw [← same.values] at readable loads ⊢
    refine wp_seq (ih fun name member => readable name (List.mem_cons_of_mem _ member))
      (fun left _ others name => ?_) fun _ _ h => h
    have marked : b?.any disabled = true ↔ ∃ a, Loads decode t.values (key first) (some a) ∧ disabled a = true := by
      cases b? with
      | none => simpa using fun a stored => absurd (stored.choose_spec.1.symm.trans loads) nofun
      | some a =>
        refine ⟨fun deleted => ⟨a, loads, deleted⟩, fun ⟨a', stored, deleted⟩ => ?_⟩
        obtain rfl := loads_unique loads stored
        exact deleted
    by_cases deleted : b?.any disabled = true
    · rw [if_pos deleted, List.mem_cons, List.mem_cons, others]
      constructor
      · rintro (rfl | ⟨member, found⟩)
        · exact ⟨.inl rfl, marked.1 deleted⟩
        · exact ⟨.inr member, found⟩
      · rintro ⟨rfl | member, found⟩
        · exact .inl rfl
        · exact .inr ⟨member, found⟩
    · rw [if_neg deleted, List.mem_cons, others]
      constructor
      · exact fun ⟨member, found⟩ => ⟨.inr member, found⟩
      · rintro ⟨rfl | member, found⟩
        · exact absurd (marked.2 found) deleted
        · exact ⟨member, found⟩

/-- In a store that is well filed what lies under the key of a cluster can be read. -/
theorem WellFiled.readable_cluster {values : Table String} (filed : WellFiled values) {name : String}
    (bare : '/' ∉ name.toList) : ∃ c?, Loads ClusterRecord.decode values (StoreKeys.cluster name) c? := by
  refine filed.readable fun text _ filing => ?_
  generalize same : StoreKeys.cluster name = key at filing
  cases filing with
  | cluster => exact ⟨_, ClusterRecord.decode_encode _⟩
  | database => exact absurd same (StoreKeys.cluster_ne_database bare _ _)
  | role => exact absurd same.symm (StoreKeys.role_ne_cluster _ _)
  | tags => exact absurd same.symm (StoreKeys.tagSet_ne_cluster _ _)

theorem WellFiled.mem_leaves_iff {values : Table String} (filed : WellFiled values) {name : String} :
    name ∈ StoreKeys.leaves (MemoryStore.children values StoreKeys.clusters) ↔
      ∃ c, Loads ClusterRecord.decode values (StoreKeys.cluster name) (some c) := by
  refine MemoryStore.mem_leaves_iff_loads filed.readable_cluster fun c loads => ?_
  obtain ⟨text, found, decoded⟩ := loads
  exact Names.slash_not_mem ((filed _ _ found).cluster_fit decoded).1

/-- All registered clusters are listed, and nothing else. -/
theorem Fleet.wp_listClusters (filed : WellFiled s.values) :
    Op.wp (alone i)
      (fun names _ => ∀ name, name ∈ names ↔ ∃ c, Loads ClusterRecord.decode s.values (StoreKeys.cluster name) (some c))
      (fun e _ => Unreached e) listClusters s := by
  refine wp_mono wp_children (fun names t listed name => ?_) fun _ _ h => h
  rw [listed.2]
  exact filed.mem_leaves_iff

/-- Those that were deleted are listed to be reclaimed. -/
theorem Reclaim.wp_listClusters (filed : WellFiled s.values) :
    Op.wp (alone i)
      (fun names _ => ∀ name, name ∈ names ↔
        ∃ c, Loads ClusterRecord.decode s.values (StoreKeys.cluster name) (some c) ∧ c.disabled = true)
      (fun e _ => Unreached e) listClusters s := by
  refine wp_seq (wp_children (i := i)) (fun names t listed => ?_) fun _ _ h => h
  obtain ⟨same, rfl⟩ := listed
  have readable : ∀ name ∈ StoreKeys.leaves (MemoryStore.children s.values StoreKeys.clusters),
      ∃ c?, Loads ClusterRecord.decode t.values (StoreKeys.cluster name) c? := by
    intro name member
    rw [same.values]
    exact filed.readable_cluster (MemoryStore.mem_leaves_children_iff.1 member).1
  refine wp_mono (wp_deletedAmong readable) (fun left _ deleted name => ?_) fun _ _ h => h
  rw [deleted, filed.mem_leaves_iff, same.values]
  exact ⟨fun ⟨_, c, stored, marked⟩ => ⟨c, stored, marked⟩, fun ⟨c, stored, marked⟩ => ⟨⟨c, stored⟩, c, stored, marked⟩⟩

end

end LeaseBroker
