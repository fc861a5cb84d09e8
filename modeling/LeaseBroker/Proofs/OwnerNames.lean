import LeaseBroker.Proofs.LoginNames

/-!
What a server's limit leaves of the name of an objects owner. The name of the
database comes first and the UUID last, so that a long name leaves less of the
UUID: all of it up to 17 octets, some up to 52, and none from 53 on. Owners are
then told apart by what fits into the 54 octets after the fixed part
(`objectsOwner_eq_iff`), which for one name is the start of the UUID
(`objectsOwner_eq_iff_take`).
-/
namespace LeaseBroker

namespace Octets

variable {room : Nat} {cs ds : List Char}

/-- What fits as a whole stays, and what follows it is cut to the rest of the room. -/
theorem fitting_append_of_le (fits : size cs ≤ room) : fitting room (cs ++ ds) = cs ++ fitting (room - size cs) ds := by
  induction cs generalizing room with
  | nil => simp
  | cons c cs ih =>
    rw [size_cons] at fits
    have first : c.utf8Size ≤ room := by omega
    have rest : size cs ≤ room - c.utf8Size := by omega
    rw [List.cons_append, fitting, if_pos first, ih rest, size_cons, Nat.sub_sub, List.cons_append]

/-- Where the room is used up, nothing that follows matters. -/
theorem fitting_append_of_lt (long : room < size cs) : fitting room (cs ++ ds) = fitting room cs := by
  induction cs generalizing room with
  | nil => simp at long
  | cons c cs ih =>
    rw [size_cons] at long
    rw [List.cons_append, fitting, fitting]
    by_cases first : c.utf8Size ≤ room
    · rw [if_pos first, if_pos first, ih (by omega)]
    · rw [if_neg first, if_neg first]

theorem fitting_of_plain (plain : ∀ c ∈ cs, c.utf8Size = 1) (room : Nat) : fitting room cs = cs.take room := by
  induction cs generalizing room with
  | nil => simp [fitting]
  | cons c cs ih =>
    have narrow : c.utf8Size = 1 := plain c List.mem_cons_self
    rw [fitting, narrow]
    cases room with
    | zero => simp
    | succ room =>
      rw [if_pos (by omega), Nat.add_sub_cancel, ih fun d member => plain d (List.mem_cons_of_mem _ member)]
      simp

/-- A leading part that fits is kept as a whole. -/
theorem prefix_fitting {part : List Char} (leads : part <+: cs) (fits : size part ≤ room) : part <+: fitting room cs := by
  induction part generalizing room cs with
  | nil => exact List.nil_prefix
  | cons c part ih =>
    obtain ⟨rest, rfl⟩ := leads
    rw [size_cons] at fits
    have first : c.utf8Size ≤ room := by omega
    rw [List.cons_append, fitting, if_pos first, List.prefix_cons_inj]
    exact ih (List.prefix_append ..) (by omega)

theorem size_toList (s : String) : size s.toList = s.utf8ByteSize := by
  suffices sizes : ∀ cs, size cs = (String.ofList cs).utf8ByteSize by rw [sizes, String.ofList_toList]
  intro cs
  induction cs with
  | nil => rfl
  | cons c cs ih => rw [size_cons, ih, String.ofList_cons, String.utf8ByteSize_append, String.utf8ByteSize_singleton]

/-- `part` is the longest leading part of `whole` of at most `limit` octets. -/
structure Longest (limit : Nat) (whole part : String) : Prop where
  leads : part.toList <+: whole.toList
  fits : part.utf8ByteSize ≤ limit
  longest : ∀ other : String, other.toList <+: whole.toList → other.utf8ByteSize ≤ limit → other.toList <+: part.toList

theorem longest_truncate (whole : String) (limit : Nat) : Longest limit whole (truncate whole limit) where
  leads := by
    rw [truncate, String.toList_ofList]
    exact fitting_append_drop ..
  fits := by
    rw [truncate, ← size_toList, String.toList_ofList]
    exact size_fitting_le ..
  longest other leads fits := by
    rw [truncate, String.toList_ofList]
    exact prefix_fitting leads (size_toList other ▸ fits)

end Octets

namespace Names

variable {database database' : String} {id id' : Uuid}

/-- All that tells one owner from another, before it is cut. -/
def ownerTail (database : String) (id : Uuid) : List Char := database.toList ++ '-' :: id.chars

theorem plain_dash_chars (id : Uuid) : ∀ c ∈ '-' :: id.chars, c.utf8Size = 1 := by
  intro c member
  rcases List.mem_cons.1 member with rfl | digit
  · decide
  · exact (plain_chars id c digit).1

theorem size_ownerTail (database : String) (id : Uuid) :
    Octets.size (ownerTail database id) = Octets.size database.toList + 37 := by
  rw [ownerTail, Octets.size_append, size_of_plain (plain_dash_chars id), List.length_cons, Uuid.length_chars]

theorem toList_objectsOwner (database : String) (id : Uuid) :
    (objectsOwner database id).toList = "v-objown-".toList ++ Octets.fitting 54 (ownerTail database id) := by
  have whole : ("v-objown-" ++ database ++ "-" ++ id.text).toList = "v-objown-".toList ++ ownerTail database id := by
    simp [ownerTail, Uuid.text]
  have lead : Octets.size "v-objown-".toList = 9 := by decide
  rw [objectsOwner, Octets.truncate, String.toList_ofList, whole,
    Octets.fitting_append_of_le (by rw [lead]; decide), lead]
  rfl

theorem objectsOwner_eq_iff :
    objectsOwner database id = objectsOwner database' id' ↔
      Octets.fitting 54 (ownerTail database id) = Octets.fitting 54 (ownerTail database' id') := by
  rw [← String.toList_inj, toList_objectsOwner, toList_objectsOwner, List.append_cancel_left_eq]

/-- A short name leaves the UUID whole. -/
theorem fitting_ownerTail_of_short (short : Octets.size database.toList ≤ 17) :
    Octets.fitting 54 (ownerTail database id) = ownerTail database id := by
  refine Octets.fitting_of_size_le ?_
  rw [size_ownerTail]
  omega

/-- The owners of databases with short names are told apart by their UUIDs. -/
theorem objectsOwner_ne_of_short (short : Octets.size database.toList ≤ 17) (short' : Octets.size database'.toList ≤ 17)
    (unlike : id ≠ id') : objectsOwner database id ≠ objectsOwner database' id' := by
  intro same
  rw [objectsOwner_eq_iff, fitting_ownerTail_of_short short, fitting_ownerTail_of_short short'] at same
  have lengths : ('-' :: id.chars).length = ('-' :: id'.chars).length := by simp [Uuid.length_chars]
  obtain ⟨-, tails⟩ := List.append_inj' same lengths
  exact unlike (Uuid.chars_inj (List.cons.inj tails).2)

/-- The owners of databases of one name are told apart by as much of the UUID as the name leaves. -/
theorem objectsOwner_eq_iff_take :
    objectsOwner database id = objectsOwner database id' ↔
      id.chars.take (53 - Octets.size database.toList) = id'.chars.take (53 - Octets.size database.toList) := by
  rw [objectsOwner_eq_iff, ownerTail, ownerTail]
  by_cases long : 54 < Octets.size database.toList
  · rw [Octets.fitting_append_of_lt long, Octets.fitting_append_of_lt long, show 53 - Octets.size database.toList = 0 by omega]
    simp
  · have fits : Octets.size database.toList ≤ 54 := by omega
    rw [Octets.fitting_append_of_le fits, Octets.fitting_append_of_le fits, List.append_cancel_left_eq,
      Octets.fitting_of_plain (plain_dash_chars id), Octets.fitting_of_plain (plain_dash_chars id')]
    by_cases full : Octets.size database.toList = 54
    · rw [full]
      simp
    · -- One octet goes to the dash, the others to the UUID.
      obtain ⟨room, split⟩ : ∃ room, 54 - Octets.size database.toList = room + 1 :=
        ⟨53 - Octets.size database.toList, by omega⟩
      rw [split, List.take_succ_cons, List.take_succ_cons, List.cons.injEq, show 53 - Octets.size database.toList = room by omega]
      simp

end Names

end LeaseBroker
