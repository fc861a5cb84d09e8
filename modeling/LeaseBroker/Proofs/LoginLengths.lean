import LeaseBroker.Proofs.OwnerNames

/-!
Where names are cut, counted in octets. A text that is cut ends at the last place
between two characters that the limit allows, so that no character is halved and
no more is lost than must be (`truncate_eq_extract`). A display name is cut to so
little that with a dash and a UUID it stays below the server's limit: the second
cut of a login takes nothing, and the UUID in it stays whole (`login_whole`).
-/
namespace LeaseBroker

namespace Octets

variable {whole part : String} {limit : Nat}

/-- `stop` is the last place of `whole`, at one of its ends or between two characters, with at most `limit` octets before it. -/
structure LastBoundary (whole : String) (limit : Nat) (stop : String.Pos.Raw) : Prop where
  boundary : stop.IsValid whole
  within : stop.byteIdx ≤ limit
  last : ∀ other : String.Pos.Raw, other.IsValid whole → other.byteIdx ≤ limit → other.byteIdx ≤ stop.byteIdx

/-- The places of a text are those at which its leading parts end. -/
theorem isValid_iff {stop : String.Pos.Raw} :
    stop.IsValid whole ↔ ∃ part : String, part.toList <+: whole.toList ∧ part.utf8ByteSize = stop.byteIdx := by
  rw [String.Pos.Raw.isValid_iff_exists_append]
  constructor
  · rintro ⟨part, rest, rfl, rfl⟩
    exact ⟨part, ⟨rest.toList, String.toList_append.symm⟩, rfl⟩
  · rintro ⟨part, ⟨rest, leads⟩, size⟩
    have parted : whole = part ++ String.ofList rest := String.toList_injective (by simp [leads])
    exact ⟨part, String.ofList rest, parted, String.Pos.Raw.ext size.symm⟩

theorem utf8ByteSize_le_of_prefix {other : String} (leads : other.toList <+: part.toList) :
    other.utf8ByteSize ≤ part.utf8ByteSize := by
  obtain ⟨rest, parted⟩ := leads
  rw [← size_toList, ← size_toList, ← parted, size_append]
  omega

/-- The longest leading part within a limit ends at the last boundary there. -/
theorem Longest.lastBoundary (h : Longest limit whole part) : LastBoundary whole limit part.rawEndPos where
  boundary := isValid_iff.2 ⟨part, h.leads, rfl⟩
  within := h.fits
  last other valid fits := by
    obtain ⟨shorter, leads, size⟩ := isValid_iff.1 valid
    rw [← size] at fits ⊢
    exact utf8ByteSize_le_of_prefix (h.longest shorter leads fits)

/-- It has the octets of the whole up to there. -/
theorem Longest.extract (h : Longest limit whole part) :
    part.toByteArray = whole.toByteArray.extract 0 part.rawEndPos.byteIdx := by
  obtain ⟨rest, parted⟩ := h.leads
  have same : whole = part ++ String.ofList rest := String.toList_injective (by simp [parted])
  rw [same, String.toByteArray_append]
  exact (ByteArray.extract_append_eq_left rfl).symm

/-- A text is cut at the last boundary within the limit. -/
theorem truncate_eq_extract (whole : String) (limit : Nat) :
    ∃ stop, LastBoundary whole limit stop ∧ (truncate whole limit).toByteArray = whole.toByteArray.extract 0 stop.byteIdx :=
  ⟨_, (longest_truncate whole limit).lastBoundary, (longest_truncate whole limit).extract⟩

end Octets

namespace Names

theorem login_eq (displayName : String) (id : Uuid) :
    login displayName id = Octets.truncate displayName displayLimit ++ "-" ++ id.text := by
  refine String.toList_injective ?_
  rw [toList_login]
  simp [Octets.truncate, kept, Uuid.text]

theorem utf8ByteSize_login_le (displayName : String) (id : Uuid) :
    (login displayName id).utf8ByteSize ≤ identifierLimit := (Octets.longest_truncate _ identifierLimit).fits

theorem length_text (id : Uuid) : id.text.length = 36 := by
  rw [Uuid.text, String.length_ofList, id.length_chars]

/-- A text is cut at the last boundary between characters that the limit allows. A login is the display name, cut to 26
    octets, with a dash and all 36 characters of the UUID behind it. It has at most 63 octets, and logins with different
    UUIDs differ, whatever their display names are. -/
theorem login_whole :
    (∀ whole limit, ∃ stop, Octets.LastBoundary whole limit stop ∧
      (Octets.truncate whole limit).toByteArray = whole.toByteArray.extract 0 stop.byteIdx) ∧
    ∀ displayName id,
      login displayName id = Octets.truncate displayName 26 ++ "-" ++ id.text ∧ id.text.length = 36 ∧
        (login displayName id).utf8ByteSize ≤ 63 ∧
        ∀ displayName' id', login displayName id = login displayName' id' → id = id' := by
  refine ⟨Octets.truncate_eq_extract, fun displayName id => ⟨login_eq displayName id, length_text id, ?_, ?_⟩⟩
  · exact utf8ByteSize_login_le displayName id
  · exact fun displayName' id' same => login_inj same

/-- A display name of 25 octets and a letter of two more, of which only the first would fit. -/
def straddlingName : String := "abcdefghijklmnopqrstuvwxyé"

/-- The letter is left out and not halved, and the UUID is whole. -/
theorem login_whole_straddling :
    login straddlingName 1 = "abcdefghijklmnopqrstuvwxy-00000000-0000-0000-0000-000000000001" ∧
      (login straddlingName 1).utf8ByteSize ≤ 63 ∧ login straddlingName 1 ≠ login straddlingName 2 := by
  obtain ⟨parts, -, short, apart⟩ := login_whole.2 straddlingName 1
  refine ⟨parts.trans (by decide +kernel), short, fun same => ?_⟩
  exact absurd (apart straddlingName 2 same) (by decide)

end Names

end LeaseBroker
