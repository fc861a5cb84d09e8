/-!
# Lengths in octets

A server limits identifiers by their UTF-8 length. A text is cut to the
longest leading part that ends between two characters and fits.
-/

namespace LeaseBroker.Octets

def size : List Char → Nat
  | [] => 0
  | c :: cs => c.utf8Size + size cs

/-- The longest leading part of at most `room` octets. -/
def fitting (room : Nat) : List Char → List Char
  | [] => []
  | c :: cs => if c.utf8Size ≤ room then c :: fitting (room - c.utf8Size) cs else []

def truncate (s : String) (limit : Nat) : String := String.ofList (fitting limit s.toList)

@[simp] theorem size_nil : size [] = 0 := rfl

@[simp] theorem size_cons (c : Char) (cs : List Char) : size (c :: cs) = c.utf8Size + size cs := rfl

@[simp] theorem size_append (cs ds : List Char) : size (cs ++ ds) = size cs + size ds := by
  induction cs with
  | nil => simp
  | cons c cs ih => simp [ih, Nat.add_assoc]

theorem fitting_append_drop (room : Nat) (cs : List Char) : ∃ rest, fitting room cs ++ rest = cs := by
  induction cs generalizing room with
  | nil => exact ⟨[], rfl⟩
  | cons c cs ih =>
    rw [fitting]
    split
    · obtain ⟨rest, h⟩ := ih (room - c.utf8Size)
      exact ⟨rest, by rw [List.cons_append, h]⟩
    · exact ⟨c :: cs, rfl⟩

theorem size_fitting_le (room : Nat) (cs : List Char) : size (fitting room cs) ≤ room := by
  induction cs generalizing room with
  | nil => simp [fitting]
  | cons c cs ih =>
    rw [fitting]
    split
    · have := ih (room - c.utf8Size); rw [size_cons]; omega
    · simp

theorem fitting_of_size_le {room : Nat} {cs : List Char} (h : size cs ≤ room) : fitting room cs = cs := by
  induction cs generalizing room with
  | nil => rfl
  | cons c cs ih =>
    rw [size_cons] at h
    rw [fitting, if_pos (by omega), ih (by omega)]

end LeaseBroker.Octets
