import LeaseBroker.Proofs.RecordText
import Mathlib.Data.List.Forall2

/-!
Which texts are read as a record. A record is written in one way and read in
several, because older texts lack some of the fields or hold `null` in them
(`Spelling`). A text is read as a record just where each declared field holds one
of the values that stand for the record's. So whatever is read at all is written
again as a text that is read as the same record.
-/
namespace LeaseBroker

open JsonReader (ofText ofText_text Plain)

namespace RecordForm

variable {α : Type} {read : Json → Option α} {v : Json} {v? : Option Json} {a : α}

/-! ## Fields -/

/-- What may stand in a field for a value, or be missing there. -/
abbrev Spelling (α : Type) := α → Option Json → Prop

/-- A field is read as a value just where it may stand for it. -/
def Exact (read : Option Json → Option α) (spelling : Spelling α) : Prop := ∀ v? a, read v? = some a ↔ spelling a v?

/-- As it is written. -/
def written (json : α → Json) : Spelling α := fun a v? => v? = some (json a)

def orNull (default : α) (spelling : Spelling α) : Spelling α :=
  fun a v? => spelling a v? ∨ v? = some .null ∧ a = default

def orAbsent (default : α) (spelling : Spelling α) : Spelling α :=
  fun a v? => spelling a v? ∨ v? = none ∧ a = default

theorem exact_required {json : α → Json} (h : ∀ v a, read v = some a ↔ v = json a) :
    Exact (required read) (written json) := by
  intro v? a
  cases v? with
  | none => exact iff_of_false nofun nofun
  | some v => exact (h v a).trans Option.some_inj.symm

/-- A field that may be left out stands for its default then. -/
theorem exact_withDefault {default : α} {spelling : Spelling α} (h : Exact (required read) spelling) :
    Exact (withDefault read default) (orAbsent default spelling) := by
  intro v? a
  have unspelled : ¬spelling a none := fun spelled => nomatch (h none a).2 spelled
  cases v? with
  | none => simp [withDefault, orAbsent, unspelled, eq_comm]
  | some v =>
    show required read (some v) = some a ↔ _
    simp [h (some v) a, orAbsent]

theorem string?_eq_some_iff {s : String} : string? v = some s ↔ v = .string s := by
  cases v <;> simp [string?]

theorem exact_string : Exact (required string?) (written .string) := exact_required fun _ _ => string?_eq_some_iff

theorem exact_secret : Exact (required secret?) (orNull "" (written .string)) := by
  intro v? s
  cases v? with
  | none => exact iff_of_false nofun (by simp [orNull, written])
  | some v => cases v <;> simp [required, secret?, optionalString?, orNull, written, eq_comm]

theorem exact_flag : Exact (required flag?) (orNull false (written .bool)) := by
  intro v? b
  cases v? with
  | none => exact iff_of_false nofun (by simp [orNull, written])
  | some v => cases v <;> simp [required, flag?, orNull, written, eq_comm]

theorem nat?_eq_some_iff {bound n : Nat} : nat? bound v = some n ↔ v = .nat n ∧ n < bound := by
  cases v with
  | number number =>
    have same : Json.number number = .nat n ↔ number.toNat? = some n := by
      rw [JsonNumber.toNat?_eq_some_iff, Json.nat, Json.number.injEq]
    rw [nat?, same]
    cases number.toNat? with
    | none => simp
    | some k =>
      dsimp only
      split
      · rename_i below
        rw [Option.some.injEq]
        exact (and_iff_left_of_imp fun same => same ▸ below).symm
      · rename_i beyond
        simp only [reduceCtorEq, Option.some.injEq, false_iff, not_and]
        rintro rfl
        exact beyond
  | _ => simp [nat?, Json.nat]

/-- A type of whole numbers that are written as they are. -/
theorem exact_nat {bound : Nat} {ofNat : Nat → α} {toNat : α → Nat} (small : ∀ a, toNat a < bound)
    (back : ∀ a, ofNat (toNat a) = a) (forth : ∀ n < bound, toNat (ofNat n) = n) :
    Exact (required fun v => (nat? bound v).map ofNat) (written fun a => .nat (toNat a)) := by
  refine exact_required fun v a => ?_
  rw [Option.map_eq_some_iff]
  constructor
  · rintro ⟨n, read, rfl⟩
    obtain ⟨rfl, below⟩ := nat?_eq_some_iff.1 read
    rw [forth n below]
  · rintro rfl
    exact ⟨toNat a, nat?_eq_some_iff.2 ⟨rfl, small a⟩, back a⟩

theorem exact_uint16 : Exact (required uint16?) (written fun n => .nat n.toNat) :=
  exact_nat UInt16.toNat_lt (fun _ => UInt16.ofNat_toNat) fun _ => UInt16.toNat_ofNat_of_lt'

theorem exact_uint32 : Exact (required uint32?) (written fun n => .nat n.toNat) :=
  exact_nat UInt32.toNat_lt (fun _ => UInt32.ofNat_toNat) fun _ => UInt32.toNat_ofNat_of_lt'

theorem exact_uint64 : Exact (required uint64?) (written fun n => .nat n.toNat) :=
  exact_nat UInt64.toNat_lt (fun _ => UInt64.ofNat_toNat) fun _ => UInt64.toNat_ofNat_of_lt'

/-- What is read item by item is what is written so. -/
theorem mapM_eq_some_iff {β γ : Type} {read : β → Option γ} {write : γ → β} (h : ∀ b c, read b = some c ↔ b = write c)
    {bs : List β} {cs : List γ} : bs.mapM read = some cs ↔ bs = cs.map write := by
  induction bs generalizing cs with
  | nil => cases cs <;> simp
  | cons b bs ih =>
    cases cs with
    | nil => simp [List.mapM_cons, Option.bind_eq_some_iff]
    | cons c cs => simp [List.mapM_cons, Option.bind_eq_some_iff, h, ih]

theorem exact_strings : Exact (required strings?) (written .strings) := by
  refine exact_required fun v texts => ?_
  cases v with
  | array items =>
    rw [strings?, mapM_eq_some_iff fun _ _ => string?_eq_some_iff, Json.strings, Json.array.injEq]
  | _ => exact iff_of_false nofun nofun

/-- Pairs in any order, of which a later one counts if two have one key. -/
def pairs : Spelling (Table String) := fun t v? =>
  ∃ es, v? = some (.object (es.map fun e => (e.1, .string e.2))) ∧ Table.ofList es = t

theorem exact_pairs : Exact (required pairs?) pairs := by
  intro v? t
  cases v? with
  | none => exact iff_of_false nofun fun ⟨_, absent, _⟩ => nomatch absent
  | some v =>
    cases v with
    | object fields =>
      have each (f : String × Json) (e : String × String) :
          (string? f.2).map (f.1, ·) = some e ↔ f = (e.1, .string e.2) := by
        obtain ⟨name, value⟩ := f
        obtain ⟨key, text⟩ := e
        simp only [Option.map_eq_some_iff, string?_eq_some_iff, Prod.mk.injEq]
        constructor
        · rintro ⟨_, rfl, rfl, rfl⟩
          exact ⟨rfl, rfl⟩
        · rintro ⟨rfl, rfl⟩
          exact ⟨text, rfl, rfl, rfl⟩
      show (fields.mapM fun f => (string? f.2).map (f.1, ·)).map Table.ofList = some t ↔ _
      simp only [Option.map_eq_some_iff, mapM_eq_some_iff each, pairs, Option.some.injEq, Json.object.injEq]
    | _ => exact iff_of_false nofun fun ⟨_, other, _⟩ => nomatch other

/-- A text, or none. -/
def optional : Spelling (Option String) := orNull none fun s? v? => ∃ s, s? = some s ∧ v? = some (.string s)

theorem exact_optional : Exact (required optionalString?) optional := by
  intro v? s?
  cases v? with
  | none => exact iff_of_false nofun (by simp [optional, orNull])
  | some v => cases v <;> cases s? <;> simp [required, optionalString?, optional, orNull, eq_comm]

end RecordForm

/-- A TLS mode by its name, or as an object with the name alone. -/
def TlsMode.spelling : RecordForm.Spelling TlsMode := fun mode v? =>
  v? = some (.string mode.text) ∨ v? = some (.object [(mode.text, .null)])

theorem TlsMode.ofText?_eq_some_iff {s : String} {mode : TlsMode} : ofText? s = some mode ↔ s = mode.text := by
  constructor
  · intro named
    exact (text_of_ofText? named).symm
  · rintro rfl
    exact ofText?_text mode

theorem ClusterRecord.exact_tlsMode : RecordForm.Exact (RecordForm.required tlsMode?) TlsMode.spelling := by
  intro v? mode
  cases v? with
  | none => exact iff_of_false nofun (by simp [TlsMode.spelling])
  | some v =>
    show tlsMode? v = some mode ↔ _
    unfold tlsMode?
    split
    · simp [TlsMode.spelling, TlsMode.ofText?_eq_some_iff]
    · simp [TlsMode.spelling, TlsMode.ofText?_eq_some_iff]
    · rename_i unnamed unwrapped
      refine iff_of_false nofun ?_
      rintro (named | wrapped)
      · exact unnamed _ (Option.some.inj named)
      · exact unwrapped _ (Option.some.inj wrapped)

/-! ## Records -/

namespace RecordForm

variable {α : Type} {encode : α → String} {decode : String → Except String α} {fieldNames : List String}
  {spellings : α → List (Option Json → Prop)}

/-- A kind of records that is read back as it was written, and from every text whose fields may stand for it. -/
structure ReadsBack (encode : α → String) (decode : String → Except String α) (fieldNames : List String)
    (spellings : α → List (Option Json → Prop)) : Prop where
  same (r : α) : decode (encode r) = .ok r
  /-- What is read is written again as a text that means the same. -/
  settles (text : String) (r : α) : decode text = .ok r → decode (encode r) = .ok r
  accepted (text : String) (r : α) : decode text = .ok r ↔ ∃ v values, ofText text = some v ∧
    declared fieldNames v = some values ∧ List.Forall₂ (fun spelled v? => spelled v?) (spellings r) values

theorem ReadsBack.of_json {ofJson? : Json → Option α} (same : ∀ r, decode (encode r) = .ok r)
    (reads : ∀ text r, decode text = .ok r ↔ ofText text >>= ofJson? = some r)
    (exact : ∀ v r, ofJson? v = some r ↔ ∃ values, declared fieldNames v = some values ∧
      List.Forall₂ (fun spelled v? => spelled v?) (spellings r) values) :
    ReadsBack encode decode fieldNames spellings := by
  refine ⟨same, fun _ r _ => same r, fun text r => ?_⟩
  rw [reads, Option.bind_eq_bind, Option.bind_eq_some_iff]
  simp only [exact, exists_and_left]

/-- What a text holds under the name of a declared field, if anything. -/
def held? (fieldNames : List String) (text name : String) : Option Json := do
  let v ← ofText text
  let values ← declared fieldNames v
  (← (fieldNames.zip values).lookup name)

/-- The values that a record was read from. -/
theorem ReadsBack.exists_values (back : ReadsBack encode decode fieldNames spellings) {text : String} {r : α}
    (read : decode text = .ok r) : ∃ values, List.Forall₂ (fun spelled v? => spelled v?) (spellings r) values ∧
      ∀ name, held? fieldNames text name = ((fieldNames.zip values).lookup name).join := by
  obtain ⟨v, values, held, declared, spelled⟩ := (back.accepted text r).1 read
  refine ⟨values, spelled, fun name => ?_⟩
  unfold held?
  rw [held, Option.bind_eq_bind, Option.bind_some, declared, Option.bind_eq_bind, Option.bind_some]
  cases (fieldNames.zip values).lookup name <;> rfl

/-- Nothing stands in a field, or `null` does. -/
def Void (v? : Option Json) : Prop := v? = none ∨ v? = some .null

theorem default_of_absent {json : α → Json} {default : α} (spelled : orAbsent default (written json) a v?)
    (absent : v? = none) : a = default := by
  subst absent
  rcases spelled with present | ⟨-, same⟩
  · cases present
  · exact same

theorem default_of_void {default : α} {spelling : Spelling α} (present : ∀ a v?, spelling a v? → ¬Void v?)
    (spelled : orAbsent default (orNull default spelling) a v?) (void : Void v?) : a = default := by
  rcases spelled with (spelled | ⟨-, same⟩) | ⟨-, same⟩
  · exact absurd void (present a v? spelled)
  · exact same
  · exact same

theorem written_not_void {json : α → Json} (value : ∀ a, json a ≠ .null) (a : α) (v? : Option Json)
    (spelled : written json a v?) : ¬Void v? := by
  rintro (absent | null)
  · cases spelled.symm.trans absent
  · exact value a (Option.some.inj (spelled.symm.trans null))

end RecordForm

namespace DatabaseRecord
open RecordForm

/-- What may stand in the fields. -/
def spellings (d : DatabaseRecord) : List (Option Json → Prop) :=
  [written .string d.cluster, written .string d.database, written .string d.objectsOwner,
    orAbsent false (orNull false (written .bool)) d.disabled]

theorem ofJson?_eq_some_iff {v : Json} {d : DatabaseRecord} : ofJson? v = some d ↔
    ∃ values, declared fieldNames v = some values ∧ List.Forall₂ (fun spelled v? => spelled v?) d.spellings values := by
  unfold ofJson?
  rw [Option.bind_eq_bind, Option.bind_eq_some_iff]
  refine exists_congr fun values => and_congr_right fun _ => ?_
  split
  · rename_i cluster database owner disabled
    simp only [Option.bind_eq_bind, Option.bind_eq_some_iff, Option.pure_def, Option.some.injEq, exact_string _ _,
      exact_withDefault exact_flag _ _, spellings, List.forall₂_cons, List.forall₂_nil_left_iff]
    constructor
    · rintro ⟨_, cluster, _, database, _, owner, _, disabled, rfl⟩
      exact ⟨cluster, database, owner, disabled, trivial⟩
    · rintro ⟨cluster, database, owner, disabled, -⟩
      exact ⟨_, cluster, _, database, _, owner, _, disabled, rfl⟩
  · rename_i odd
    refine iff_of_false nofun ?_
    rintro (_ | ⟨-, _ | ⟨-, _ | ⟨-, _ | ⟨-, ⟨⟩⟩⟩⟩⟩)
    exact odd _ _ _ _ rfl

theorem decode_eq_ok_iff {text : String} {d : DatabaseRecord} : decode text = .ok d ↔ ofText text >>= ofJson? = some d := by
  unfold decode
  cases ofText text >>= ofJson? <;> simp

theorem readsBack : ReadsBack encode decode fieldNames spellings :=
  .of_json decode_encode (fun _ _ => decode_eq_ok_iff) fun _ _ => ofJson?_eq_some_iff

end DatabaseRecord

namespace ClusterRecord
open RecordForm

/-- What may stand in the fields. -/
def spellings (c : ClusterRecord) : List (Option Json → Prop) :=
  [written .string c.host, written (fun n : UInt16 => .nat n.toNat) c.port, written .string c.username,
    orNull "" (written .string) c.password, orAbsent "" (written .string) c.managementRole,
    orAbsent "" (orNull "" (written .string)) c.managementPassword,
    written (fun n : UInt32 => .nat n.toNat) c.maxOpenConnections,
    written (fun n : UInt32 => .nat n.toNat) c.maxIdleConnections,
    written (fun n : UInt64 => .nat n.toNat) c.maxConnectionLifetime, written .string c.database,
    TlsMode.spelling c.tlsMode, orAbsent false (orNull false (written .bool)) c.disabled]

theorem ofJson?_eq_some_iff {v : Json} {c : ClusterRecord} : ofJson? v = some c ↔
    ∃ values, declared fieldNames v = some values ∧ List.Forall₂ (fun spelled v? => spelled v?) c.spellings values := by
  unfold ofJson?
  rw [Option.bind_eq_bind, Option.bind_eq_some_iff]
  refine exists_congr fun values => and_congr_right fun _ => ?_
  split
  · simp only [Option.bind_eq_bind, Option.bind_eq_some_iff, Option.pure_def, Option.some.injEq, exact_string _ _,
      exact_uint16 _ _, exact_uint32 _ _, exact_uint64 _ _, exact_secret _ _, exact_tlsMode _ _,
      exact_withDefault exact_string _ _, exact_withDefault exact_secret _ _, exact_withDefault exact_flag _ _,
      spellings, List.forall₂_cons, List.forall₂_nil_left_iff]
    constructor
    · rintro ⟨_, host, _, port, _, username, _, password, _, role, _, secret, _, opened, _, idle, _, lifetime, _,
        database, _, tlsMode, _, disabled, rfl⟩
      exact ⟨host, port, username, password, role, secret, opened, idle, lifetime, database, tlsMode, disabled, trivial⟩
    · rintro ⟨host, port, username, password, role, secret, opened, idle, lifetime, database, tlsMode, disabled, -⟩
      exact ⟨_, host, _, port, _, username, _, password, _, role, _, secret, _, opened, _, idle, _, lifetime, _,
        database, _, tlsMode, _, disabled, rfl⟩
  · rename_i odd
    refine iff_of_false nofun ?_
    rintro (_ | ⟨-, _ | ⟨-, _ | ⟨-, _ | ⟨-, _ | ⟨-, _ | ⟨-, _ | ⟨-, _ | ⟨-, _ | ⟨-, _ | ⟨-, _ | ⟨-, _ | ⟨-, ⟨⟩⟩⟩⟩⟩⟩⟩⟩⟩⟩⟩⟩⟩)
    exact odd _ _ _ _ _ _ _ _ _ _ _ _ rfl

theorem decode_eq_ok_iff {text : String} {c : ClusterRecord} : decode text = .ok c ↔ ofText text >>= ofJson? = some c := by
  unfold decode
  cases ofText text >>= ofJson? <;> simp

theorem readsBack : ReadsBack encode decode fieldNames spellings :=
  .of_json decode_encode (fun _ _ => decode_eq_ok_iff) fun _ _ => ofJson?_eq_some_iff

end ClusterRecord

namespace RoleRecord
open RecordForm

/-- What may stand in the fields. -/
def spellings (r : RoleRecord) : List (Option Json → Prop) :=
  [orAbsent 0 (written fun n : UInt64 => .nat n.toNat) r.defaultTtl,
    orAbsent 0 (written fun n : UInt64 => .nat n.toNat) r.maxTtl, orAbsent [] (written .strings) r.creation,
    orAbsent [] (written .strings) r.revocation]

theorem ofJson?_eq_some_iff {v : Json} {r : RoleRecord} : ofJson? v = some r ↔
    ∃ values, declared fieldNames v = some values ∧ List.Forall₂ (fun spelled v? => spelled v?) r.spellings values := by
  unfold ofJson?
  rw [Option.bind_eq_bind, Option.bind_eq_some_iff]
  refine exists_congr fun values => and_congr_right fun _ => ?_
  split
  · simp only [Option.bind_eq_bind, Option.bind_eq_some_iff, Option.pure_def, Option.some.injEq,
      exact_withDefault exact_uint64 _ _, exact_withDefault exact_strings _ _, spellings, List.forall₂_cons,
      List.forall₂_nil_left_iff]
    constructor
    · rintro ⟨_, defaultTtl, _, maxTtl, _, creation, _, revocation, rfl⟩
      exact ⟨defaultTtl, maxTtl, creation, revocation, trivial⟩
    · rintro ⟨defaultTtl, maxTtl, creation, revocation, -⟩
      exact ⟨_, defaultTtl, _, maxTtl, _, creation, _, revocation, rfl⟩
  · rename_i odd
    refine iff_of_false nofun ?_
    rintro (_ | ⟨-, _ | ⟨-, _ | ⟨-, _ | ⟨-, ⟨⟩⟩⟩⟩⟩)
    exact odd _ _ _ _ rfl

theorem decode_eq_ok_iff {text : String} {r : RoleRecord} : decode text = .ok r ↔ ofText text >>= ofJson? = some r := by
  unfold decode
  cases ofText text >>= ofJson? <;> simp

theorem readsBack : ReadsBack encode decode fieldNames spellings :=
  .of_json decode_encode (fun _ _ => decode_eq_ok_iff) fun _ _ => ofJson?_eq_some_iff

end RoleRecord

namespace TagRecord
open RecordForm

/-- What may stand in the fields. -/
def spellings (r : TagRecord) : List (Option Json → Prop) :=
  [written .string r.cluster, orAbsent none optional r.database, pairs r.tags]

theorem ofJson?_eq_some_iff {v : Json} {r : TagRecord} : ofJson? v = some r ↔
    ∃ values, declared fieldNames v = some values ∧ List.Forall₂ (fun spelled v? => spelled v?) r.spellings values := by
  unfold ofJson?
  rw [Option.bind_eq_bind, Option.bind_eq_some_iff]
  refine exists_congr fun values => and_congr_right fun _ => ?_
  split
  · simp only [Option.bind_eq_bind, Option.bind_eq_some_iff, Option.pure_def, Option.some.injEq, exact_string _ _,
      exact_withDefault exact_optional _ _, exact_pairs _ _, spellings, List.forall₂_cons, List.forall₂_nil_left_iff]
    constructor
    · rintro ⟨_, cluster, _, database, _, tags, rfl⟩
      exact ⟨cluster, database, tags, trivial⟩
    · rintro ⟨cluster, database, tags, -⟩
      exact ⟨_, cluster, _, database, _, tags, rfl⟩
  · rename_i odd
    refine iff_of_false nofun ?_
    rintro (_ | ⟨-, _ | ⟨-, _ | ⟨-, ⟨⟩⟩⟩⟩)
    exact odd _ _ _ rfl

theorem decode_eq_ok_iff {text : String} {r : TagRecord} : decode text = .ok r ↔ ofText text >>= ofJson? = some r := by
  unfold decode
  cases ofText text >>= ofJson? <;> simp

theorem readsBack : ReadsBack encode decode fieldNames spellings :=
  .of_json decode_encode (fun _ _ => decode_eq_ok_iff) fun _ _ => ofJson?_eq_some_iff

end TagRecord

/-! ## What a text may lack -/

namespace ClusterRecord
open RecordForm

theorem defaults {text : String} {c : ClusterRecord} (read : decode text = .ok c) :
    (Void (held? fieldNames text "disabled") → c.disabled = false) ∧
    (Void (held? fieldNames text "management_password") → c.managementPassword = "") ∧
    (held? fieldNames text "management_role" = none → c.managementRole = "") := by
  obtain ⟨values, spelled, held⟩ := readsBack.exists_values read
  rcases spelled with _ | ⟨-, _ | ⟨-, _ | ⟨-, _ | ⟨-, _ | ⟨role, _ | ⟨password, _ | ⟨-, _ | ⟨-, _ | ⟨-, _ | ⟨-, _ | ⟨-,
    _ | ⟨disabled, ⟨⟩⟩⟩⟩⟩⟩⟩⟩⟩⟩⟩⟩⟩
  rw [held, held, held]
  exact ⟨default_of_void (written_not_void (by simp)) disabled, default_of_void (written_not_void (by simp)) password,
    default_of_absent role⟩

end ClusterRecord

namespace DatabaseRecord
open RecordForm

theorem defaults {text : String} {d : DatabaseRecord} (read : decode text = .ok d)
    (void : Void (held? fieldNames text "disabled")) : d.disabled = false := by
  obtain ⟨values, spelled, held⟩ := readsBack.exists_values read
  rcases spelled with _ | ⟨-, _ | ⟨-, _ | ⟨-, _ | ⟨disabled, ⟨⟩⟩⟩⟩⟩
  rw [held] at void
  exact default_of_void (written_not_void (by simp)) disabled void

end DatabaseRecord

namespace RoleRecord
open RecordForm

theorem defaults {text : String} {r : RoleRecord} (read : decode text = .ok r) :
    (held? fieldNames text "default_ttl" = none → r.defaultTtl = 0) ∧
    (held? fieldNames text "max_ttl" = none → r.maxTtl = 0) ∧
    (held? fieldNames text "creation_statement" = none → r.creation = []) ∧
    (held? fieldNames text "revocation_statement" = none → r.revocation = []) := by
  obtain ⟨values, spelled, held⟩ := readsBack.exists_values read
  rcases spelled with _ | ⟨defaultTtl, _ | ⟨maxTtl, _ | ⟨creation, _ | ⟨revocation, ⟨⟩⟩⟩⟩⟩
  rw [held, held, held, held]
  exact ⟨default_of_absent defaultTtl, default_of_absent maxTtl, default_of_absent creation, default_of_absent revocation⟩

end RoleRecord

namespace TagRecord
open RecordForm

theorem defaults {text : String} {r : TagRecord} (read : decode text = .ok r)
    (void : Void (held? fieldNames text "database")) : r.database = none := by
  obtain ⟨values, spelled, held⟩ := readsBack.exists_values read
  rcases spelled with _ | ⟨-, _ | ⟨database, _ | ⟨-, ⟨⟩⟩⟩⟩
  rw [held] at void
  refine default_of_void (fun s? v? spelled void => ?_) database void
  obtain ⟨s, -, rfl⟩ := spelled
  rcases void with absent | null
  · cases absent
  · cases null

end TagRecord

open RecordForm in
/-- Records of all kinds are read back as they were written, and from every text whose fields may stand for theirs. What
    such a text lacks has its default, and what holds no flag is active. -/
theorem records_read_back :
    ReadsBack ClusterRecord.encode ClusterRecord.decode ClusterRecord.fieldNames ClusterRecord.spellings ∧
    ReadsBack DatabaseRecord.encode DatabaseRecord.decode DatabaseRecord.fieldNames DatabaseRecord.spellings ∧
    ReadsBack RoleRecord.encode RoleRecord.decode RoleRecord.fieldNames RoleRecord.spellings ∧
    ReadsBack TagRecord.encode TagRecord.decode TagRecord.fieldNames TagRecord.spellings ∧
    (∀ text c, ClusterRecord.decode text = .ok c →
      (Void (held? ClusterRecord.fieldNames text "disabled") → c.disabled = false) ∧
      (Void (held? ClusterRecord.fieldNames text "management_password") → c.managementPassword = "") ∧
      (held? ClusterRecord.fieldNames text "management_role" = none → c.managementRole = "")) ∧
    (∀ text d, DatabaseRecord.decode text = .ok d →
      Void (held? DatabaseRecord.fieldNames text "disabled") → d.disabled = false) ∧
    (∀ text r, RoleRecord.decode text = .ok r →
      (held? RoleRecord.fieldNames text "default_ttl" = none → r.defaultTtl = 0) ∧
      (held? RoleRecord.fieldNames text "max_ttl" = none → r.maxTtl = 0) ∧
      (held? RoleRecord.fieldNames text "creation_statement" = none → r.creation = []) ∧
      (held? RoleRecord.fieldNames text "revocation_statement" = none → r.revocation = [])) ∧
    ∀ text r, TagRecord.decode text = .ok r → Void (held? TagRecord.fieldNames text "database") → r.database = none :=
  ⟨ClusterRecord.readsBack, DatabaseRecord.readsBack, RoleRecord.readsBack, TagRecord.readsBack,
    fun _ _ => ClusterRecord.defaults, fun _ _ => DatabaseRecord.defaults, fun _ _ => RoleRecord.defaults,
    fun _ _ => TagRecord.defaults⟩

/-- The record of a database that holds no flag yet. -/
def unflaggedDatabase : Json :=
  .object [("cluster", .string "main"), ("database", .string "app"), ("objects_owner", .string "owner"),
    ("disabled", .null)]

/-- A record without a flag is that of an active database and settles as such, and one that says nothing is a role. -/
theorem unflagged_database_settles : ∃ d : DatabaseRecord, DatabaseRecord.decode unflaggedDatabase.text = .ok d ∧
    d.disabled = false ∧ DatabaseRecord.decode d.encode = .ok d ∧ d.encode ≠ unflaggedDatabase.text ∧
    RoleRecord.decode (Json.object []).text = .ok ⟨0, 0, [], []⟩ := by
  obtain ⟨-, databases, roles, -, -, flags, -⟩ := records_read_back
  let d : DatabaseRecord := ⟨"main", "app", "owner", false⟩
  have plain : Plain unflaggedDatabase := ⟨trivial, trivial, trivial, trivial, trivial⟩
  have spelled : List.Forall₂ (fun spelled v? => spelled v?) d.spellings
      [some (.string "main"), some (.string "app"), some (.string "owner"), some .null] :=
    .cons rfl (.cons rfl (.cons rfl (.cons (.inl (.inr ⟨rfl, rfl⟩)) .nil)))
  have read : DatabaseRecord.decode unflaggedDatabase.text = .ok d :=
    (databases.accepted _ d).2 ⟨unflaggedDatabase, _, ofText_text plain, rfl, spelled⟩
  have empty : List.Forall₂ (fun spelled v? => spelled v?) (RoleRecord.spellings ⟨0, 0, [], []⟩) [none, none, none, none] :=
    .cons (.inr ⟨rfl, rfl⟩) (.cons (.inr ⟨rfl, rfl⟩) (.cons (.inr ⟨rfl, rfl⟩) (.cons (.inr ⟨rfl, rfl⟩) .nil)))
  have void : RecordForm.Void (RecordForm.held? DatabaseRecord.fieldNames unflaggedDatabase.text "disabled") := by
    unfold RecordForm.held?
    rw [ofText_text plain]
    exact .inr rfl
  refine ⟨d, read, flags _ d read void, databases.settles _ d read, fun same => ?_, ?_⟩
  · have written : ofText d.encode = some d.toJson := ofText_text d.plain_toJson
    rw [same, ofText_text plain] at written
    cases written
  · exact (roles.accepted _ _).2 ⟨.object [], _, ofText_text trivial, rfl, empty⟩

end LeaseBroker
