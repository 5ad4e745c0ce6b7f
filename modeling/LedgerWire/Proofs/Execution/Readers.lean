import LedgerWire.Proofs.Json.Tagging
import LedgerWire.Proofs.Json.Unordered

/-!
# The two readers of an action error

An action error is read by its record where it is the type of a field, and by a decoder of its own
inside a union. The record reads the members in the order of the text and then fills its fields;
the decoder looks two members up and stops at the first fault. What they report differs, and so
does what they make of a list. Of every other value they make the same: both read what denotes an
action error, and both refuse where something in the tree below is refused.
-/

namespace LedgerWire

open Json (Distinct ReadError)
open Relation (ReflTransGen)

/-- A word is read from the number of the word alone. -/
theorem Schema.uint64_read_eq_ok_iff {value : Json} {word : UInt64} :
    uint64.read value = .ok word ↔ value.uint64? = some word := by
  match value with
  | .number (.integer n range) =>
    show (readBelow (2 ^ 64) "u64" (.number (.integer n range))).map UInt64.ofNat = _ ↔ _
    rw [Json.uint64?, Json.Number.toUInt64?]
    by_cases hpos : 0 ≤ n
    · have hbounds : 0 ≤ n ∧ n.toNat < (2 : Nat) ^ 64 := ⟨hpos, by omega⟩
      rw [readBelow, if_pos hbounds, if_pos hpos, Except.map_ok]
      simp
    · rw [readBelow, if_neg fun h => hpos h.1, if_neg hpos]
      simp
  | .number (.double _) | .null | .bool _ | .string _ | .array _ | .object _ =>
    exact iff_of_false (fun h => by cases h) fun h => by cases h

namespace ActionError

variable {members : List (String × Json)} {index : Option UInt64} {kind : Json}
  {error : CodecError}

/-! ### The fields of the record -/

/-- The fields that the record declares. -/
def fields : Fields (Option UInt64 × ActionErrorKind × Unit) :=
  .field "index" (.optional .uint64) (some none) <|
    .field "kind" ActionErrorKind.schema none .done

/-- The schema of an action error is that of a record of two fields. -/
theorem schema_eq_record : schema = .record "ActionError" fields row false := rfl

/-- The record makes of the index what the decoder makes of it. -/
theorem readIndex_eq_ok_iff {member : Option Json} :
    Fields.readMember "index" (.optional .uint64) (some none) member = .ok index ↔
      decodeIndex member = .ok index := by
  cases member with
  | none => simp [Fields.readMember, decodeIndex]
  | some value =>
    by_cases hnull : value = .null
    · subst hnull
      simp [Fields.readMember, Schema.optional, decodeIndex]
    · have hread : Schema.uint64.optional.read value = (Schema.uint64.read value).map some := by
        cases value with
        | null => exact absurd rfl hnull
        | _ => rfl
      rw [Fields.readMember, hread, Except.map_eq_ok_iff, decodeIndex_some hnull]
      simp only [Schema.uint64_read_eq_ok_iff]
      cases value.uint64? <;> simp

/-- The record makes of the kind what the decoder makes of it. -/
theorem readKind_eq_ok_iff {member : Option Json} {decoded : ActionErrorKind} :
    Fields.readMember "kind" ActionErrorKind.schema none member = .ok decoded ↔
      decodeKind member = .ok decoded := by
  cases member with
  | none => simp [Fields.readMember, decodeKind]
  | some kind =>
    show ActionErrorKind.schema.read kind = .ok decoded ↔
      ActionErrorKind.union.decode kind = .ok decoded
    rw [ActionErrorKind.schema, Tagged.schema_read_eq_mapError, Except.mapError_eq_ok_iff]

/-- The fields are filled in from members just when the members are decoded, with the
same values. -/
theorem fill_eq_ok_iff {filled : Option UInt64 × ActionErrorKind × Unit} :
    fields.fill members = .ok filled ↔ decode (.object members) = .ok (row.ofRow filled) := by
  rw [decode_object]
  simp only [Except.bind_eq_ok_iff]
  constructor
  · intro h
    obtain ⟨hindex, hrest⟩ := Fields.readMember_of_fill h
    obtain ⟨hkind, -⟩ := Fields.readMember_of_fill hrest
    exact ⟨_, readIndex_eq_ok_iff.mp hindex, _, readKind_eq_ok_iff.mp hkind, rfl⟩
  · rintro ⟨index, hindex, kind, hkind, hfilled⟩
    rw [fields, Fields.fill_field, readIndex_eq_ok_iff.mpr hindex, Except.ok_bind,
      Fields.fill_field, readKind_eq_ok_iff.mpr hkind, Except.ok_bind]
    cases hfilled
    rfl

/-! ### What denotes an action error -/

/-- A value denotes an action error: it is an object whose index, if there is one, is that of the
error, and whose kind stands for the kind of the error. Other members play no part. -/
inductive Denotes : Json → ActionError → Prop where
  | object {members : List (String × Json)} {error : ActionError} {kind : Json}
      (hindex : HasIndex members error.index) (hkind : members.lookup "kind" = some kind)
      (stands : Stands ActionErrorKind.form kind error.kind) : Denotes (.object members) error

/-- A value is decoded just when it denotes an action error, and as that one. -/
theorem decode_eq_ok_iff {value : Json} {decoded : ActionError} :
    decode value = .ok decoded ↔ Denotes value decoded := by
  have hform (kind : Json) : ActionErrorKind.union.decode kind = .ok decoded.kind ↔
      Stands ActionErrorKind.form kind decoded.kind :=
    @UnionType.decode_eq_ok_iff .actionErrorKind kind decoded.kind
  constructor
  · intro h
    by_cases hobject : ∃ members, value = .object members
    · obtain ⟨members, rfl⟩ := hobject
      rw [decode_object] at h
      obtain ⟨index, hindex, hrest⟩ := Except.bind_eq_ok_iff.mp h
      obtain ⟨kind, hkind, hdecoded⟩ := Except.bind_eq_ok_iff.mp hrest
      cases hdecoded
      cases hlookup : members.lookup "kind" with
      | none => simp [hlookup, decodeKind] at hkind
      | some json =>
        rw [hlookup] at hkind
        exact .object (decodeIndex_eq_ok_iff.mp hindex) hlookup ((hform json).mp hkind)
    · rw [decode_notObject fun members h => hobject ⟨members, h⟩] at h
      cases h
  · rintro ⟨hindex, hkind, hstands⟩
    rw [decode_kind hindex hkind, (hform _).mpr hstands, Except.map_ok]

/-- A value is no list, and no two members of it have one name. -/
structure Readable (value : Json) : Prop where
  notArray (items : List Json) : value ≠ .array items
  distinct (members : List (String × Json)) (heq : value = .object members) : Distinct members

/-- An object whose members have different names is fit for either reader. -/
theorem Readable.object (hdistinct : Distinct members) : Readable (.object members) where
  notArray items := by simp
  distinct others heq := Json.object.inj heq ▸ hdistinct

/-- What is no list and no object the record refuses as the decoder does. -/
theorem schema_read_other {value : Json} (harray : ∀ items, value ≠ .array items)
    (hobject : ∀ members, value ≠ .object members) :
    schema.read value = .error (.invalidType value.found "struct ActionError") := by
  cases value with
  | array items => exact absurd rfl (harray items)
  | object members => exact absurd rfl (hobject members)
  | _ => rfl

/-- An object is read by the schema just when it is decoded, with the same value. -/
theorem schema_read_object_eq_ok_iff (hdistinct : Distinct members) {decoded : ActionError} :
    schema.read (.object members) = .ok decoded ↔ decode (.object members) = .ok decoded := by
  have hadmits : fields.Admits false members := fun h => by cases h
  rw [schema_eq_record, (Schema.record_read_object hdistinct hadmits).eq_ok_iff,
    Except.map_eq_ok_iff]
  simp only [fill_eq_ok_iff]
  constructor
  · rintro ⟨filled, hdecode, rfl⟩
    exact hdecode
  · intro hdecode
    exact ⟨row.toRow decoded, by rwa [row.ofRow_toRow], row.ofRow_toRow decoded⟩

/-- A value that is fit for either reader is read by the schema just when it is decoded. -/
theorem schema_read_eq_ok_iff {value : Json} (h : Readable value) {decoded : ActionError} :
    schema.read value = .ok decoded ↔ decode value = .ok decoded := by
  by_cases hobject : ∃ members, value = .object members
  · obtain ⟨members, rfl⟩ := hobject
    exact schema_read_object_eq_ok_iff (h.distinct members rfl)
  · have hother : ∀ members, value ≠ .object members := fun members h => hobject ⟨members, h⟩
    rw [schema_read_other h.notArray hother, decode_notObject hother]
    simp

/-- The record refuses what the decoder refuses. -/
theorem exists_schema_read_eq_error_iff {value : Json} (h : Readable value) :
    (∃ failure, schema.read value = .error failure) ↔ ∃ error, decode value = .error error := by
  cases hread : schema.read value with
  | ok decoded => simp [(schema_read_eq_ok_iff h).mp hread]
  | error failure =>
    cases hdecode : decode value with
    | ok decoded =>
      rw [(schema_read_eq_ok_iff h).mpr hdecode] at hread
      cases hread
    | error error => simp

/-! ### What the record reports -/

/-- With a fine index the only member that can fail is the kind. -/
theorem checkMember_ok {name : String} {value : Json} (hdistinct : Distinct members)
    (hindex : HasIndex members index) (hmember : (name, value) ∈ members) (hname : name ≠ "kind") :
    fields.checkMember false fields.names name value = .ok () := by
  by_cases hown : name = "index"
  · subst hown
    have hread := readIndex_eq_ok_iff.mpr (decodeIndex_eq_ok_iff.mpr hindex)
    rw [hdistinct.lookup_eq_some_iff.mpr hmember] at hread
    have hvalue : Schema.uint64.optional.read value = .ok index := hread
    rw [fields, Fields.checkMember, if_pos rfl, hvalue, Except.map_ok]
  · exact Fields.checkMember_undeclared (by simp [fields, Fields.names, hown, hname])

/-- Without a kind the schema refuses an object by the name of the field. -/
theorem schema_read_missingKind (hdistinct : Distinct members) (hindex : HasIndex members index)
    (hmissing : members.lookup "kind" = none) :
    schema.read (.object members) = .error (.missingField "kind") := by
  have hcheck : fields.checkMembers false members = .ok () := by
    refine Fields.checkMembers_eq_ok fun ⟨name, value⟩ hmember => ?_
    refine checkMember_ok hdistinct hindex hmember ?_
    rintro rfl
    rw [hdistinct.lookup_eq_some_iff.mpr hmember] at hmissing
    cases hmissing
  have hfill : fields.fill members = .error (.missingField "kind") := by
    rw [fields, Fields.fill_field, readIndex_eq_ok_iff.mpr (decodeIndex_eq_ok_iff.mpr hindex),
      Fields.fill_field, hmissing]
    rfl
  show (fields.checkMembers false members >>= fun _ => fields.fill members >>= _) = _
  rw [hcheck, hfill, Except.ok_bind, Except.error_bind]

/-- With a fine index the record puts the failure of the kind into words. -/
theorem schema_read_badKind (hdistinct : Distinct members) (hindex : HasIndex members index)
    (hkind : members.lookup "kind" = some kind)
    (hfails : ActionErrorKind.union.decode kind = .error error) :
    schema.read (.object members) = .error (.refused error.message) := by
  have hread : ActionErrorKind.schema.read kind = .error (.refused error.message) := by
    rw [ActionErrorKind.schema, Tagged.schema_read_eq_mapError, hfails, Except.mapError_error]
  have hcheck : fields.checkMembers false members = .error (.refused error.message) := by
    refine Fields.checkMembers_eq_error_of_one hkind ?_ fun other hother hname =>
      checkMember_ok hdistinct hindex hother hname
    rw [fields, Fields.checkMember, if_neg (by decide), Fields.checkMember, if_pos rfl, hread,
      Except.map_error]
  show (fields.checkMembers false members >>= _) = _
  rw [hcheck, Except.error_bind]

/-! ### The two readers together -/

/-- The decoder refuses a list. Of every other value whose members have different names the two
readers make the same: both read it as the action error that it denotes, or both refuse it. They
refuse it when it is no object, when there is an index that is neither null nor an unsigned number
of 64 bits, when there is no kind, and when some place in the tree below the kind is refused; there
the decoder fails as that place does, and the record in its words. -/
theorem readers_agree :
    (∀ value, Readable value → ∀ decoded,
      (decode value = .ok decoded ↔ schema.read value = .ok decoded) ∧
        (schema.read value = .ok decoded ↔ Denotes value decoded)) ∧
    (∀ value, Readable value →
      ((∃ failure, schema.read value = .error failure) ↔
        ∃ inner error, ReflTransGen Step (.actionError, value) inner ∧ Raises inner error)) ∧
    (∀ value, (∀ items, value ≠ .array items) → (∀ members, value ≠ .object members) →
      decode value = .error (.typeMismatch .actionError (.kind value.kind)) ∧
        schema.read value = .error (.invalidType value.found "struct ActionError")) ∧
    (∀ members index, Distinct members → BadIndex members index →
      decode (.object members) = .error (.typeMismatch .actionIndex (.kind index.kind)) ∧
        ∃ failure, schema.read (.object members) = .error failure) ∧
    (∀ members index, Distinct members → HasIndex members index →
      members.lookup "kind" = none → decode (.object members) = .error (.format .missingKind) ∧
        schema.read (.object members) = .error (.missingField "kind")) ∧
    (∀ members index kind inner error, Distinct members → HasIndex members index →
      members.lookup "kind" = some kind →
        ReflTransGen Step (.union .actionErrorKind, kind) inner → Raises inner error →
          decode (.object members) = .error error ∧
            schema.read (.object members) = .error (.refused error.message)) ∧
    ∀ items, decode (.array items) = .error (.typeMismatch .actionError (.kind "array")) := by
  refine ⟨fun value h decoded => ⟨(schema_read_eq_ok_iff h).symm, ?_⟩, fun value h => ?_,
    fun value harray hobject => ⟨decode_notObject hobject, schema_read_other harray hobject⟩,
    fun members index hdistinct hbad => ⟨decode_badIndex hbad, ?_⟩,
    fun members index hdistinct hindex hmissing => ⟨decode_missingKind hindex hmissing,
      schema_read_missingKind hdistinct hindex hmissing⟩, ?_, fun items => rfl⟩
  · rw [schema_read_eq_ok_iff h, decode_eq_ok_iff]
  · rw [exists_schema_read_eq_error_iff h]
    constructor
    · rintro ⟨error, hfails⟩
      obtain ⟨inner, hreaches, -, hraises⟩ :=
        (Place.decode_eq_error_iff_innermost (.actionError, value)).mp hfails
      exact ⟨inner, error, hreaches, hraises⟩
    · rintro ⟨inner, error, hreaches, hraises⟩
      exact ⟨error, (decode_eq_error_iff_of_reaches hreaches).mpr hraises.decode_eq_error⟩
  · exact (exists_schema_read_eq_error_iff (.object hdistinct)).mpr ⟨_, decode_badIndex hbad⟩
  · intro members index kind inner error hdistinct hindex hkind hreaches hraises
    have hfails : ActionErrorKind.union.decode kind = .error error :=
      (decode_eq_error_iff_of_reaches hreaches).mpr hraises.decode_eq_error
    refine ⟨?_, schema_read_badKind hdistinct hindex hkind hfails⟩
    rw [decode_kind hindex hkind, hfails, Except.map_error]

/-- A trap that does not exist, below a null index and beside a member that is not declared; an
action error with its members turned round; and faults that neither reader passes over. -/
theorem readers_agree_trap :
    let trap : Json := .object [("FunctionCallError", .object [("WasmTrap", .string "Banana")])]
    let unknown : CodecError := .unknownVariant "WasmTrap" "Banana"
    let nested : List (String × Json) :=
      [("index", .null), ("height", .ofUInt64 7), ("kind", trap)]
    let expired : Json :=
      .object [("kind", .string "DelegateActionExpired"), ("index", .ofUInt64 2)]
    let below : Json := .number (.integer (-1) (by decide))
    (decode (.object nested) = .error unknown ∧
        schema.read (.object nested) = .error (.refused unknown.message)) ∧
      (∃ inner error, ReflTransGen Step (.actionError, .object nested) inner ∧
        Raises inner error) ∧
      (decode expired = .ok ⟨some 2, .delegateActionExpired⟩ ∧
        Denotes expired ⟨some 2, .delegateActionExpired⟩) ∧
      schema.read (.string "kind") =
        .error (.invalidType (.string "kind") "struct ActionError") ∧
      (∃ failure, schema.read (.object [("index", below), ("kind", trap)]) = .error failure) ∧
      schema.read (.object [("index", .ofUInt64 0)]) = .error (.missingField "kind") := by
  intro trap unknown nested expired below
  obtain ⟨hsame, hrefused, hother, hbad, hmissing, hbelow, -⟩ := readers_agree
  have hdistinct : Distinct nested := by decide
  have hreaches : ReflTransGen Step (.union .actionErrorKind, trap)
      (.union .wasmTrap, .string "Banana") := by
    refine .head (.payload .functionCallError _) ?_
    exact .head (.payload .wasmTrap _) .refl
  have hraises : Raises (.union .wasmTrap, .string "Banana") unknown := by
    refine Raises.unknownVariant_iff.mpr ⟨.wasmTrap, rfl, rfl, .inl ⟨rfl, fun known hname => ?_⟩⟩
    cases known <;> exact absurd hname (by decide)
  have hnested := hbelow nested none trap _ unknown hdistinct (.null rfl) rfl hreaches hraises
  have hexpired : decode expired = .ok ⟨some 2, .delegateActionExpired⟩ := rfl
  have hreadable : Readable expired := .object (by decide)
  obtain ⟨hread, hdenotes⟩ := hsame expired hreadable ⟨some 2, .delegateActionExpired⟩
  refine ⟨hnested, (hrefused _ (.object hdistinct)).mp ⟨_, hnested.2⟩,
    ⟨hexpired, hdenotes.mp (hread.mp hexpired)⟩, ?_, ?_, ?_⟩
  · exact (hother (.string "kind") (by simp) (by simp)).2
  · refine (hbad _ below (by decide) ⟨rfl, by simp [below], fun word => ?_⟩).2
    simp [below, Json.ofUInt64, Json.Number.ofUInt64]
  · exact (hmissing _ (some 0) (by decide) (.word rfl) rfl).2

/-- A list the record reads by position, so there the two readers part. -/
example : schema.read (.array [.null, .string "DelegateActionExpired"]) =
    .ok ⟨none, .delegateActionExpired⟩ := rfl

end ActionError

end LedgerWire
