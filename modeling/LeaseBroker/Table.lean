/-!
# Tables

A table holds at most one value under each text, in ascending order of the
texts. The order is part of the type, so two tables with the same entries are
the same table. Every operation is described by what it does to `get?`.
-/

namespace LeaseBroker

/-- Values under texts, in strictly ascending order. -/
@[ext] structure Table (α : Type) where
  entries : List (String × α)
  ascending : entries.Pairwise (fun a b => a.1 < b.1)

namespace Table

variable {α : Type}

/-! ## Entries in order -/

def find (key : String) : List (String × α) → Option α
  | [] => none
  | (k, v) :: rest => if k = key then some v else find key rest

def place (key : String) (value : α) : List (String × α) → List (String × α)
  | [] => [(key, value)]
  | (k, v) :: rest =>
    if key < k then (key, value) :: (k, v) :: rest
    else if k = key then (key, value) :: rest
    else (k, v) :: place key value rest

def without (key : String) (es : List (String × α)) : List (String × α) := es.filter fun e => e.1 ≠ key

theorem lt_of_not_lt_of_ne {a b : String} (h : ¬ a < b) (ne : b ≠ a) : b < a := by
  rcases String.not_lt.1 h with h'
  exact Decidable.byContradiction fun h'' => ne (String.le_antisymm h' (String.not_lt.1 h''))

theorem mem_place {key : String} {value : α} {e : String × α} {es : List (String × α)}
    (h : e ∈ place key value es) : e = (key, value) ∨ e ∈ es := by
  induction es with
  | nil => simpa [place] using h
  | cons d ds ih =>
    obtain ⟨k, v⟩ := d
    rw [place] at h
    split at h
    · simpa using h
    · split at h
      · rcases List.mem_cons.1 h with h | h
        · exact .inl h
        · exact .inr (List.mem_cons_of_mem _ h)
      · rcases List.mem_cons.1 h with h | h
        · exact .inr (by simp [h])
        · exact (ih h).imp id (List.mem_cons_of_mem _)

theorem ascending_place {key : String} {value : α} {es : List (String × α)}
    (h : es.Pairwise (fun a b => a.1 < b.1)) : (place key value es).Pairwise (fun a b => a.1 < b.1) := by
  induction es with
  | nil => simp [place]
  | cons d ds ih =>
    obtain ⟨k, v⟩ := d
    have ⟨hd, hds⟩ := List.pairwise_cons.1 h
    rw [place]
    split
    · rename_i lt
      refine List.pairwise_cons.2 ⟨fun e he => ?_, h⟩
      rcases List.mem_cons.1 he with rfl | he
      · exact lt
      · exact String.lt_trans lt (hd e he)
    · split
      · rename_i eq
        subst eq
        exact List.pairwise_cons.2 ⟨hd, hds⟩
      · rename_i nlt ne
        refine List.pairwise_cons.2 ⟨fun e he => ?_, ih hds⟩
        rcases mem_place he with rfl | he
        · exact lt_of_not_lt_of_ne nlt ne
        · exact hd e he

theorem find_place (key other : String) (value : α) (es : List (String × α)) :
    find other (place key value es) = if other = key then some value else find other es := by
  induction es with
  | nil => simp [place, find, eq_comm]
  | cons d ds ih =>
    obtain ⟨k, v⟩ := d
    rw [place]
    split
    · by_cases h : other = key
      · subst h; simp [find]
      · simp [find, h, Ne.symm h]
    · split
      · rename_i eq
        subst eq
        by_cases h : other = k
        · simp [find, h]
        · simp [find, h, Ne.symm h]
      · rename_i ne
        rw [find, find, ih]
        by_cases h : other = key
        · subst h; simp [ne]
        · simp [h]

theorem find_without (key other : String) (es : List (String × α)) :
    find other (without key es) = if other = key then none else find other es := by
  induction es with
  | nil => simp [without, find]
  | cons d ds ih =>
    obtain ⟨k, v⟩ := d
    unfold without at ih ⊢
    rw [List.filter_cons]
    by_cases hk : k = key
    · subst hk
      simp only [ne_eq, not_true_eq_false, decide_false, Bool.false_eq_true, if_false, ih, find]
      by_cases h : other = k
      · simp [h]
      · simp [h, Ne.symm h]
    · simp only [ne_eq, hk, not_false_eq_true, decide_true, if_true, find, ih]
      by_cases h : other = key
      · subst h; simp [hk]
      · simp [h]

theorem find_eq_some_iff {es : List (String × α)} (h : es.Pairwise (fun a b => a.1 < b.1)) {key : String}
    {value : α} : find key es = some value ↔ (key, value) ∈ es := by
  induction es with
  | nil => simp [find]
  | cons d ds ih =>
    obtain ⟨k, v⟩ := d
    have ⟨hd, hds⟩ := List.pairwise_cons.1 h
    rw [find]
    split
    · rename_i eq
      subst eq
      constructor
      · intro h; simp_all
      · intro h
        rcases List.mem_cons.1 h with h | h
        · simp_all
        · exact absurd (hd _ h) (String.lt_irrefl _)
    · rename_i ne
      rw [ih hds, List.mem_cons]
      constructor
      · exact .inr
      · rintro (h | h)
        · exact absurd (congrArg Prod.fst h).symm ne
        · exact h

/-! ## Operations -/

def empty : Table α := ⟨[], List.Pairwise.nil⟩

instance : Inhabited (Table α) := ⟨empty⟩

instance : EmptyCollection (Table α) := ⟨empty⟩

def get? (t : Table α) (key : String) : Option α := find key t.entries

/-- Puts `value` under `key` in place of any earlier one. -/
def insert (t : Table α) (key : String) (value : α) : Table α :=
  ⟨place key value t.entries, ascending_place t.ascending⟩

def erase (t : Table α) (key : String) : Table α :=
  ⟨without key t.entries, t.ascending.filter _⟩

def keys (t : Table α) : List String := t.entries.map (·.1)

def size (t : Table α) : Nat := t.entries.length

def isEmpty (t : Table α) : Bool := t.entries.isEmpty

/-- Of two pairs with one key the later wins. -/
def ofList (es : List (String × α)) : Table α := es.foldl (fun t e => t.insert e.1 e.2) empty

def map {β : Type} (f : α → β) (t : Table α) : Table β :=
  ⟨t.entries.map fun e => (e.1, f e.2), List.pairwise_map.2 t.ascending⟩

@[simp] theorem get?_empty (key : String) : (empty : Table α).get? key = none := rfl

theorem get?_insert (t : Table α) (key other : String) (value : α) :
    (t.insert key value).get? other = if other = key then some value else t.get? other :=
  find_place key other value t.entries

theorem get?_erase (t : Table α) (key other : String) :
    (t.erase key).get? other = if other = key then none else t.get? other :=
  find_without key other t.entries

@[simp] theorem get?_insert_self (t : Table α) (key : String) (value : α) :
    (t.insert key value).get? key = some value := by
  simp [get?_insert]

theorem get?_insert_of_ne (t : Table α) {key other : String} (value : α) (h : other ≠ key) :
    (t.insert key value).get? other = t.get? other := by
  simp [get?_insert, h]

@[simp] theorem get?_erase_self (t : Table α) (key : String) : (t.erase key).get? key = none := by
  simp [get?_erase]

theorem get?_eq_some_iff {t : Table α} {key : String} {value : α} :
    t.get? key = some value ↔ (key, value) ∈ t.entries :=
  find_eq_some_iff t.ascending

theorem mem_keys_iff {t : Table α} {key : String} : key ∈ t.keys ↔ ∃ v, t.get? key = some v := by
  simp [keys, get?_eq_some_iff]

theorem keys_ascending (t : Table α) : t.keys.Pairwise (· < ·) := List.pairwise_map.2 t.ascending

end Table

end LeaseBroker
