import LedgerWire.Proofs.Json.Schema
import LedgerWire.Proofs.Union.Registry
import LedgerWire.Union.Tagged

/-!
# Unions that restore what they encode

The payload of a value is taken apart in one place and decoded in another, by the variant that the
registry lists for its tag. A union restores a value when the two agree on it; then decoding the
externally tagged form gives the value back, as does reading it through the schema of the union.
-/

namespace LedgerWire

variable {τ υ α : Type} [VariantTag τ]

namespace Variant

/-- The variant decodes the payload, null standing for none, to the value. Only a variant of unit
shape goes without payload. -/
def Restores (variant : Variant τ υ) (payload : Option Json) (value : υ) : Prop :=
  match payload with
  | none => variant.shape = .unit ∧ variant.decode .null = .ok value
  | some payload => variant.decode payload = .ok value

/-- A variant without payload restores its value. -/
theorem unit_restores (tag : τ) (value : υ) : (unit tag value).Restores none value := ⟨rfl, rfl⟩

/-- A variant that is its one field restores the value that is made of it. -/
theorem unwrapped_restores {tag : τ} {make : α → υ} (schema : Schema α) [schema.Faithful]
    (value : α) :
    (unwrapped tag schema make).Restores (some (schema.write value)) (make value) := by
  have hread : schema.read (schema.write value) = .ok value := Schema.restores value
  show (decodePayload (VariantTag.name tag) schema (schema.write value)).map make = .ok (make value)
  rw [decodePayload, hread]
  rfl

/-- A variant with named fields restores the value that is made of them. -/
theorem structured_restores {tag : τ} {make : α → υ} (schema : Schema α) [schema.Faithful]
    (value : α) (hobject : ∃ members, schema.write value = .object members) :
    (structured tag schema make).Restores (some (schema.write value)) (make value) := by
  have hread : schema.read (schema.write value) = .ok value := Schema.restores value
  obtain ⟨members, hmembers⟩ := hobject
  rw [hmembers] at hread ⊢
  show (decodePayload (VariantTag.name tag) schema (.object members)).map make = .ok (make value)
  rw [decodePayload, hread]
  rfl

omit [VariantTag τ] in
/-- A nested variant restores the value that is made of what its payload decodes to. -/
theorem nested_restores {tag : τ} {make : α → υ} {payload : Json} {value : α}
    (decode : Json → Except CodecError α) (hdecode : decode payload = .ok value) :
    (nested tag decode make).Restores (some payload) (make value) := by
  show (decode payload).map make = .ok (make value)
  rw [hdecode]
  rfl

omit [VariantTag τ] in
/-- An ordinal plays no part in JSON. -/
theorem withOrdinal_restores (ordinal : UInt8) {variant : Variant τ υ} {payload : Option Json}
    {value : υ} (hvariant : variant.Restores payload value) :
    (variant.withOrdinal ordinal).Restores payload value :=
  hvariant

end Variant

variable [DecidableEq τ]

namespace Tagged

variable {union : Tagged τ υ} {value : υ}

/-- The variant of the tag of the value decodes the payload that the value is taken apart into. -/
def Restores (union : Tagged τ υ) (value : υ) : Prop :=
  (union.registry.variant (union.tag value)).Restores (union.payload value) value

/-- The two ways of writing a value agree. -/
theorem write_eq_encode (union : Tagged τ υ) (value : υ) :
    union.write value = union.encode value := by
  unfold write encode payload
  cases (union.parts value).payload <;> rfl

/-- The externally tagged form of a value that is restored decodes to that value. -/
theorem decode_encode (hvalue : union.Restores value) :
    union.decode (union.encode value) = .ok value := by
  have hlookup : union.registry.lookup? (VariantTag.name (union.tag value)) =
      some (union.registry.variant (union.tag value)) := Registry.lookup?_name _
  unfold Restores at hvalue
  unfold decode encode
  cases hpayload : union.payload value with
  | none =>
    rw [hpayload] at hvalue
    obtain ⟨hshape, hdecode⟩ := hvalue
    simp only [variantName, Registry.decode, hlookup, hshape, if_true, hdecode]
  | some payload =>
    rw [hpayload] at hvalue
    have hdecode : (union.registry.variant (union.tag value)).decode payload = .ok value := hvalue
    simp only [variantName, Registry.decode, hlookup, hdecode]

/-- What is written for a field of the type of the union decodes too. -/
theorem decode_write (hvalue : union.Restores value) :
    union.decode (union.write value) = .ok value := by
  rw [write_eq_encode, decode_encode hvalue]

/-- A union that restores every value is faithful as the type of a field. -/
theorem schema_faithful (hunion : ∀ value, union.Restores value) : union.schema.Faithful where
  restores value := by
    simp only [Schema.Restores, schema, decode_write (hunion value)]

end Tagged

end LedgerWire
