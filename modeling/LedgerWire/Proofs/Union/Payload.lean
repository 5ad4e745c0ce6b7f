import LedgerWire.Proofs.Except
import LedgerWire.Proofs.Union.Registry

/-!
# What a union refuses

Decoding a union either ends at the union, which then refuses a value that names none of its
variants, or hands the payload to the variant that is named. A variant that reads its payload
itself, and not by a codec of its own, refuses it with a mismatch that names the variant.
-/

namespace LedgerWire

variable {τ υ : Type} [VariantTag τ]

/-! ### Variants that read their payload -/

/-- How a variant reads its payload itself: there is none, or a schema reads the one field or the
object of the fields. -/
inductive Reading (υ : Type) : Type 1 where
  | unit (value : υ)
  | unwrapped {α : Type} (schema : Schema α) (make : α → υ)
  | structured {α : Type} (schema : Schema α) (make : α → υ)

namespace Reading

/-- The variant of a tag that reads its payload in the given way. -/
def variant (tag : τ) : Reading υ → Variant τ υ
  | unit value => .unit tag value
  | unwrapped schema make => .unwrapped tag schema make
  | structured schema make => .structured tag schema make

/-- What is refused as the payload of the variant of a name: anything where there is none, what is
no object, and what the schema does not read. The last failure keeps the words of the schema. -/
inductive Refuses (name : String) : Reading υ → Json → CodecError → Prop where
  | noPayload {value : υ} {payload : Json} (present : payload ≠ .null) :
      Refuses name (.unit value) payload
        (.typeMismatch (.noPayload name) (.kind payload.kind))
  | notObject {α : Type} {schema : Schema α} {make : α → υ} {payload : Json}
      (other : ∀ members, payload ≠ .object members) :
      Refuses name (.structured schema make) payload
        (.typeMismatch (.objectPayload name) (.kind payload.kind))
  | field {α : Type} {schema : Schema α} {make : α → υ} {payload : Json} {error : Json.ReadError}
      (unread : schema.read payload = .error error) :
      Refuses name (.unwrapped schema make) payload
        (.typeMismatch (.payload name) (.unreadable error))
  | fields {α : Type} {schema : Schema α} {make : α → υ} {members : List (String × Json)}
      {error : Json.ReadError} (unread : schema.read (.object members) = .error error) :
      Refuses name (.structured schema make) (.object members)
        (.typeMismatch (.payload name) (.unreadable error))

end Reading

namespace Variant

/-- The variant reads its payload itself, in the given way. -/
def Reads (v : Variant τ υ) (reading : Reading υ) : Prop :=
  v.shape = (reading.variant v.tag).shape ∧ v.decode = (reading.variant v.tag).decode

/-- A payload is refused just when the schema refuses it, as a mismatch of the payload. -/
theorem decodePayload_eq_error_iff {α : Type} {name : String} {schema : Schema α}
    {payload : Json} {error : CodecError} :
    decodePayload name schema payload = .error error ↔
      ∃ cause, schema.read payload = .error cause ∧
        error = .typeMismatch (.payload name) (.unreadable cause) := by
  unfold decodePayload
  cases schema.read payload with
  | ok value => simp
  | error cause => simp [eq_comm]

/-- A variant that reads its payload itself fails exactly on what it refuses. -/
theorem Reads.decode_eq_error_iff {v : Variant τ υ} {reading : Reading υ} (hreads : v.Reads reading)
    {payload : Json} {error : CodecError} :
    v.decode payload = .error error ↔ reading.Refuses v.name payload error := by
  rw [hreads.2]
  cases reading with
  | unit value =>
    constructor
    · intro h
      cases payload with
      | null => cases h
      | _ =>
        cases h
        refine .noPayload ?_
        intro hnull
        cases hnull
    · rintro ⟨hpresent⟩
      cases payload with
      | null => exact absurd rfl hpresent
      | _ => rfl
  | unwrapped schema make =>
    show (decodePayload v.name schema payload).map make = .error error ↔ _
    rw [Except.map_eq_error_iff, decodePayload_eq_error_iff]
    constructor
    · rintro ⟨cause, hread, rfl⟩
      exact .field hread
    · rintro (_ | _ | hread)
      exact ⟨_, hread, rfl⟩
  | structured schema make =>
    cases payload with
    | object members =>
      show (decodePayload v.name schema (.object members)).map make = .error error ↔ _
      rw [Except.map_eq_error_iff, decodePayload_eq_error_iff]
      constructor
      · rintro ⟨cause, hread, rfl⟩
        exact .fields hread
      · rintro (_ | hother | _ | hread)
        · exact absurd rfl (hother members)
        · exact ⟨_, hread, rfl⟩
    | _ =>
      constructor
      · intro h
        cases h
        refine .notObject ?_
        intro members hobject
        cases hobject
      · rintro (_ | hother | _ | hread)
        rfl

/-- A variant without payload decodes null, which stands for it. -/
theorem Reads.decode_null {v : Variant τ υ} {reading : Reading υ} (hreads : v.Reads reading)
    (hshape : v.shape = .unit) : ∃ value, v.decode .null = .ok value := by
  rw [hreads.1] at hshape
  rw [hreads.2]
  cases reading with
  | unit value => exact ⟨value, rfl⟩
  | unwrapped | structured => cases hshape

end Variant

/-! ### Unions that know no such variant -/

variable [DecidableEq τ]

namespace Registry

/-- What a union refuses before it comes to a payload: a value that is neither a text nor an
object, an object that has not exactly one member, a text that is not the name of a variant
without payload, and a member under the name of no variant. -/
inductive Refuses (registry : Registry τ υ) : Json → CodecError → Prop where
  | notTagged {value : Json} (noText : ∀ text, value ≠ .string text)
      (noObject : ∀ members, value ≠ .object members) :
      Refuses registry value (.typeMismatch (.union registry.family) (.kind value.kind))
  | memberCount {members : List (String × Json)} (count : members.length ≠ 1) :
      Refuses registry (.object members)
        (.format (.memberCount registry.family members.length))
  | unknownText {text : String}
      (unknown : ∀ tag, VariantTag.name tag = text → (registry.variant tag).shape ≠ .unit) :
      Refuses registry (.string text) (.unknownVariant registry.family text)
  | unknownMember {name : String} {payload : Json}
      (unknown : ∀ tag : τ, VariantTag.name tag ≠ name) :
      Refuses registry (.object [(name, payload)]) (.unknownVariant registry.family name)

variable {registry : Registry τ υ}

/-- The name of a variant without payload is decoded as the variant with null. -/
theorem decode_name (tag : τ) (hshape : (registry.variant tag).shape = .unit) :
    registry.decode (.string (VariantTag.name tag)) = (registry.variant tag).decode .null := by
  simp only [decode, lookup?_name, hshape, if_true]

/-- An object with the name of a variant is decoded as the variant with its payload. -/
theorem decode_member (tag : τ) (payload : Json) :
    registry.decode (.object [(VariantTag.name tag, payload)]) =
      (registry.variant tag).decode payload := by
  simp only [decode, lookup?_name]

/-- What the union refuses by itself it fails with. -/
theorem decode_of_refuses {value : Json} {error : CodecError}
    (hrefuses : registry.Refuses value error) : registry.decode value = .error error := by
  cases hrefuses with
  | notTagged noText noObject =>
    cases value with
    | string text => exact absurd rfl (noText text)
    | object members => exact absurd rfl (noObject members)
    | _ => rfl
  | @memberCount members count =>
    match members, count with
    | [], _ => rfl
    | [_], count => exact absurd rfl count
    | _ :: _ :: _, _ => rfl
  | @unknownText text unknown =>
    cases hfound : registry.lookup? text with
    | none => simp only [decode, hfound]
    | some v =>
      obtain ⟨tag, hname, rfl⟩ := lookup?_eq_some_iff.mp hfound
      simp only [decode, hfound, if_neg (unknown tag hname)]
  | @unknownMember name payload unknown =>
    simp only [decode, lookup?_eq_none_iff.mpr unknown]

/-- Every value is refused by the union, or is the name of a variant without payload, or hands a
payload to a variant. -/
theorem decode_cases (registry : Registry τ υ) (value : Json) :
    (∃ error, registry.Refuses value error) ∨
      (∃ tag, value = .string (VariantTag.name tag) ∧ (registry.variant tag).shape = .unit) ∨
      ∃ (tag : τ) (payload : Json), value = .object [(VariantTag.name tag, payload)] := by
  match value with
  | .string text =>
    by_cases hknown : ∃ tag, VariantTag.name tag = text ∧ (registry.variant tag).shape = .unit
    · obtain ⟨tag, rfl, hshape⟩ := hknown
      exact Or.inr (Or.inl ⟨tag, rfl, hshape⟩)
    · exact Or.inl ⟨_, .unknownText fun tag hname hshape => hknown ⟨tag, hname, hshape⟩⟩
  | .object [(name, payload)] =>
    by_cases hknown : ∃ tag : τ, VariantTag.name tag = name
    · obtain ⟨tag, rfl⟩ := hknown
      exact Or.inr (Or.inr ⟨tag, payload, rfl⟩)
    · exact Or.inl ⟨_, .unknownMember fun tag hname => hknown ⟨tag, hname⟩⟩
  | .object [] => exact Or.inl ⟨_, .memberCount (by simp)⟩
  | .object (_ :: _ :: _) => exact Or.inl ⟨_, .memberCount (by simp)⟩
  | .null | .bool _ | .number _ | .array _ => exact Or.inl ⟨_, .notTagged nofun nofun⟩

end Registry

end LedgerWire
