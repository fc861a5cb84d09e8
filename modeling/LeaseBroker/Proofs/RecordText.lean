import LeaseBroker.Proofs.JsonText
import LeaseBroker.ClusterRecord
import LeaseBroker.DatabaseRecord
import LeaseBroker.RoleRecord
import LeaseBroker.TagRecord

/-!
Stored records. A record that is written is read as itself, whatever its fields
hold, and the record of a database is never taken for that of a cluster.
-/
namespace LeaseBroker

open JsonReader (Plain Whole ofText_text)

theorem whole_nat {n : Nat} (h : n < UInt64.size) : Whole n := by
  have : n < 0x10000000000000000 := h
  exact ⟨by omega, by omega⟩

namespace RecordForm

theorem nat?_nat {bound n : Nat} (h : n < bound) : nat? bound (.nat n) = some n := by
  simp [nat?, Json.nat, JsonNumber.toNat?, h]

theorem uint16?_nat (n : UInt16) : uint16? (.nat n.toNat) = some n := by
  simp [uint16?, nat?_nat n.toNat_lt]

theorem uint32?_nat (n : UInt32) : uint32? (.nat n.toNat) = some n := by
  simp [uint32?, nat?_nat n.toNat_lt]

theorem uint64?_nat (n : UInt64) : uint64? (.nat n.toNat) = some n := by
  simp [uint64?, nat?_nat n.toNat_lt]

end RecordForm

namespace ClusterRecord

theorem plain_toJson (c : ClusterRecord) : Plain c.toJson := by
  have port : Whole c.port.toNat := whole_nat (Nat.lt_trans c.port.toNat_lt (by decide))
  have maxOpen : Whole c.maxOpenConnections.toNat := whole_nat (Nat.lt_trans c.maxOpenConnections.toNat_lt (by decide))
  have maxIdle : Whole c.maxIdleConnections.toNat := whole_nat (Nat.lt_trans c.maxIdleConnections.toNat_lt (by decide))
  have lifetime : Whole c.maxConnectionLifetime.toNat := whole_nat c.maxConnectionLifetime.toNat_lt
  exact ⟨trivial, port, trivial, trivial, trivial, trivial, maxOpen, maxIdle, lifetime, trivial, trivial, trivial,
    trivial⟩

theorem ofJson?_toJson (c : ClusterRecord) : ofJson? c.toJson = some c := by
  have declared : RecordForm.declared fieldNames c.toJson = some [some (.string c.host), some (.nat c.port.toNat),
      some (.string c.username), some (.string c.password), some (.string c.managementRole),
      some (.string c.managementPassword), some (.nat c.maxOpenConnections.toNat),
      some (.nat c.maxIdleConnections.toNat), some (.nat c.maxConnectionLifetime.toNat), some (.string c.database),
      some (.string c.tlsMode.text), some (.bool c.disabled)] := rfl
  have port := RecordForm.uint16?_nat c.port
  have maxOpen := RecordForm.uint32?_nat c.maxOpenConnections
  have maxIdle := RecordForm.uint32?_nat c.maxIdleConnections
  have lifetime := RecordForm.uint64?_nat c.maxConnectionLifetime
  simp [ofJson?, declared, RecordForm.required, RecordForm.withDefault, RecordForm.string?, RecordForm.secret?,
    RecordForm.optionalString?, RecordForm.flag?, port, maxOpen, maxIdle, lifetime, tlsMode?, TlsMode.ofText?_text]

theorem decode_encode (c : ClusterRecord) : decode c.encode = .ok c := by
  rw [decode, encode, ofText_text c.plain_toJson, Option.bind_eq_bind, Option.bind_some, ofJson?_toJson]

theorem encode_injective {c d : ClusterRecord} (same : c.encode = d.encode) : c = d :=
  Except.ok.inj (c.decode_encode.symm.trans ((congrArg decode same).trans d.decode_encode))

/-- The record of a cluster that is in use. -/
def exampleRecord : ClusterRecord where
  host := "db"
  port := 5432
  username := "root"
  password := "first"
  managementRole := "manager"
  managementPassword := "second"
  maxOpenConnections := 5
  maxIdleConnections := 5
  maxConnectionLifetime := 300
  database := "postgres"
  tlsMode := .require
  disabled := false

end ClusterRecord

namespace DatabaseRecord

theorem plain_toJson (d : DatabaseRecord) : Plain d.toJson := ⟨trivial, trivial, trivial, trivial, trivial⟩

theorem ofJson?_toJson (d : DatabaseRecord) : ofJson? d.toJson = some d := by
  have declared : RecordForm.declared fieldNames d.toJson =
      some [some (.string d.cluster), some (.string d.database), some (.string d.objectsOwner), some (.bool d.disabled)] := by
    rfl
  simp [ofJson?, declared, RecordForm.required, RecordForm.withDefault, RecordForm.string?, RecordForm.flag?]

theorem decode_encode (d : DatabaseRecord) : decode d.encode = .ok d := by
  rw [decode, encode, ofText_text d.plain_toJson, Option.bind_eq_bind, Option.bind_some, ofJson?_toJson]

/-- The record of a database is not that of a cluster. -/
theorem cluster_decode_encode (d : DatabaseRecord) : ∃ report, ClusterRecord.decode d.encode = .error report := by
  have declared : RecordForm.declared ClusterRecord.fieldNames d.toJson = some [none, none, none, none, none, none, none,
      none, none, some (.string d.database), none, some (.bool d.disabled)] := rfl
  have missing : ClusterRecord.ofJson? d.toJson = none := by simp [ClusterRecord.ofJson?, declared, RecordForm.required]
  refine ⟨"not a cluster record", ?_⟩
  rw [ClusterRecord.decode, encode, ofText_text d.plain_toJson, Option.bind_eq_bind, Option.bind_some, missing]

end DatabaseRecord

namespace RoleRecord

theorem plain_strings (texts : List String) : Plain (.strings texts) := by
  show JsonReader.AllPlain (texts.map .string)
  induction texts with
  | nil => trivial
  | cons text texts ih => exact ⟨trivial, ih⟩

theorem strings?_strings (texts : List String) : RecordForm.strings? (.strings texts) = some texts := by
  show (texts.map Json.string).mapM RecordForm.string? = some texts
  induction texts with
  | nil => rfl
  | cons text texts ih => simp [List.mapM_cons, RecordForm.string?, ih]

theorem plain_toJson (r : RoleRecord) : Plain r.toJson := by
  have defaultTtl : Whole r.defaultTtl.toNat := whole_nat r.defaultTtl.toNat_lt
  have maxTtl : Whole r.maxTtl.toNat := whole_nat r.maxTtl.toNat_lt
  exact ⟨defaultTtl, maxTtl, plain_strings r.creation, plain_strings r.revocation, trivial⟩

theorem ofJson?_toJson (r : RoleRecord) : ofJson? r.toJson = some r := by
  have declared : RecordForm.declared fieldNames r.toJson = some [some (.nat r.defaultTtl.toNat),
      some (.nat r.maxTtl.toNat), some (.strings r.creation), some (.strings r.revocation)] := rfl
  have defaultTtl := RecordForm.uint64?_nat r.defaultTtl
  have maxTtl := RecordForm.uint64?_nat r.maxTtl
  simp [ofJson?, declared, RecordForm.withDefault, defaultTtl, maxTtl, strings?_strings]

theorem decode_encode (r : RoleRecord) : decode r.encode = .ok r := by
  rw [decode, encode, ofText_text r.plain_toJson, Option.bind_eq_bind, Option.bind_some, ofJson?_toJson]

end RoleRecord

namespace Table

variable {α : Type}

theorem place_of_last {key : String} {value : α} {es : List (String × α)} (last : ∀ e ∈ es, e.1 < key) :
    place key value es = es ++ [(key, value)] := by
  induction es with
  | nil => rfl
  | cons e rest ih =>
    have before : e.1 < key := last e (List.mem_cons_self ..)
    have notBelow : ¬key < e.1 := String.lt_asymm before
    have different : e.1 ≠ key := fun same => String.lt_irrefl key (same ▸ before)
    rw [place, if_neg notBelow, if_neg different, ih fun d member => last d (List.mem_cons_of_mem _ member)]
    rfl

/-- Entries in order are those of the table that is made of them. -/
theorem ofList_entries (t : Table α) : ofList t.entries = t := by
  have appended (rest : List (String × α)) (start : Table α)
      (ordered : (start.entries ++ rest).Pairwise fun a b => a.1 < b.1) :
      (rest.foldl (fun t e => t.insert e.1 e.2) start).entries = start.entries ++ rest := by
    induction rest generalizing start with
    | nil => exact (List.append_nil _).symm
    | cons e rest ih =>
      have last : ∀ d ∈ start.entries, d.1 < e.1 := fun d member =>
        (List.pairwise_append.1 ordered).2.2 d member e (List.mem_cons_self ..)
      have inserted : (start.insert e.1 e.2).entries = start.entries ++ [e] := place_of_last last
      rw [List.foldl_cons, ih _ (by rwa [inserted, List.append_assoc, List.singleton_append]), inserted,
        List.append_assoc, List.singleton_append]
  exact Table.ext (appended t.entries empty t.ascending)

end Table

namespace TagRecord

theorem fieldsPlain_strings (es : List (String × String)) :
    JsonReader.FieldsPlain (es.map fun e => (e.1, Json.string e.2)) := by
  induction es with
  | nil => trivial
  | cons e es ih => exact ⟨trivial, ih⟩

theorem plain_tags (tags : Table String) : Plain (.ofTable (tags.map .string)) := fieldsPlain_strings tags.entries

theorem pairs?_tags (tags : Table String) : RecordForm.pairs? (.ofTable (tags.map .string)) = some tags := by
  have read (es : List (String × String)) :
      (es.map fun e => (e.1, Json.string e.2)).mapM (fun f => (RecordForm.string? f.2).map (f.1, ·)) = some es := by
    induction es with
    | nil => rfl
    | cons e es ih =>
      rw [List.map_cons, List.mapM_cons, ih]
      rfl
  exact (congrArg (Option.map Table.ofList) (read tags.entries)).trans (congrArg some (Table.ofList_entries tags))

theorem plain_toJson (r : TagRecord) : Plain r.toJson := by
  obtain ⟨cluster, database, tags⟩ := r
  cases database with
  | none => exact ⟨trivial, plain_tags tags, trivial⟩
  | some d => exact ⟨trivial, trivial, plain_tags tags, trivial⟩

theorem ofJson?_toJson (r : TagRecord) : ofJson? r.toJson = some r := by
  obtain ⟨cluster, database, tags⟩ := r
  have pairs := pairs?_tags tags
  cases database with
  | none =>
    have declared : RecordForm.declared fieldNames (toJson ⟨cluster, none, tags⟩) =
        some [some (.string cluster), none, some (.ofTable (tags.map .string))] := rfl
    simp [ofJson?, declared, RecordForm.required, RecordForm.withDefault, RecordForm.string?, pairs]
  | some d =>
    have declared : RecordForm.declared fieldNames (toJson ⟨cluster, some d, tags⟩) =
        some [some (.string cluster), some (.string d), some (.ofTable (tags.map .string))] := rfl
    simp [ofJson?, declared, RecordForm.required, RecordForm.withDefault, RecordForm.string?,
      RecordForm.optionalString?, pairs]

theorem decode_encode (r : TagRecord) : decode r.encode = .ok r := by
  rw [decode, encode, ofText_text r.plain_toJson, Option.bind_eq_bind, Option.bind_some, ofJson?_toJson]

end TagRecord

end LeaseBroker
