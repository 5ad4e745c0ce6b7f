import LedgerWire.Proofs.Json.ByName
import LedgerWire.Proofs.Union.Payload
import LedgerWire.Union.Tagged

/-!
# Unions that go by name

A union is a text or an object with one member, so there is no order of members in it but inside
the payload, and it goes by name when its variants do. An object with more members than one is no
union, in any order.
-/

namespace LedgerWire

open Json (ByName)

variable {α τ υ : Type} {same : α → α → Prop}

namespace Variant

variable [VariantTag τ]

/-- A payload is decoded as its schema reads it, with failures as mismatches of the payload. -/
theorem decodePayload_eq_mapError (name : String) (schema : Schema α) (payload : Json) :
    decodePayload name schema payload = (schema.read payload).mapError fun error =>
      .typeMismatch (.payload name) (.unreadable error) := by
  unfold decodePayload
  cases schema.read payload <;> rfl

/-- A variant without payload is decoded by name. -/
theorem unit_byName (tag : τ) (value : υ) : ByName Eq (unit tag value).decode := by
  intro payload payload' h
  cases h with
  | null => exact .ok rfl
  | _ => exact .error _ _

/-- A variant that is its one field is decoded by name if the field is. -/
theorem unwrapped_byName {same' : υ → υ → Prop} {tag : τ} {schema : Schema α} {make : α → υ}
    (hschema : ByName same schema.read) (hmake : ∀ {a b}, same a b → same' (make a) (make b)) :
    ByName same' (unwrapped tag schema make).decode := by
  intro payload payload' h
  show SameOutcome same' ((decodePayload _ schema payload).map make)
    ((decodePayload _ schema payload').map make)
  rw [decodePayload_eq_mapError, decodePayload_eq_mapError]
  exact ((hschema h).mapError _).map hmake

/-- A variant with named fields is decoded by name if they are. -/
theorem structured_byName {same' : υ → υ → Prop} {tag : τ} {schema : Schema α} {make : α → υ}
    (hschema : ByName same schema.read) (hmake : ∀ {a b}, same a b → same' (make a) (make b)) :
    ByName same' (structured tag schema make).decode := by
  have hunwrapped : ByName same' (unwrapped tag schema make).decode :=
    unwrapped_byName hschema hmake
  intro payload payload' h
  cases h with
  | object hdistinct horder hmembers => exact hunwrapped (.object hdistinct horder hmembers)
  | _ => exact .error _ _

omit [VariantTag τ] in
/-- A nested variant is decoded by name if the inner union is. -/
theorem nested_byName {same' : υ → υ → Prop} {tag : τ} {decode : Json → Except CodecError α}
    {make : α → υ} (hdecode : ByName same decode)
    (hmake : ∀ {a b}, same a b → same' (make a) (make b)) :
    ByName same' (nested tag decode make).decode :=
  fun _ _ h => (hdecode h).map hmake

/-- A variant that puts what an unordered schema reads under a constructor. -/
theorem unwrapped_unordered (tag : τ) (schema : Schema α) [schema.Unordered] (make : α → υ) :
    ByName Eq (unwrapped tag schema make).decode :=
  unwrapped_byName Schema.byName (congrArg make)

/-- A variant whose payload is an object that an unordered schema reads. -/
theorem structured_unordered (tag : τ) (schema : Schema α) [schema.Unordered] (make : α → υ) :
    ByName Eq (structured tag schema make).decode :=
  structured_byName Schema.byName (congrArg make)

omit [VariantTag τ] in
/-- An ordinal plays no part in JSON. -/
theorem withOrdinal_byName {same : υ → υ → Prop} (ordinal : UInt8) {variant : Variant τ υ}
    (h : ByName same variant.decode) : ByName same (variant.withOrdinal ordinal).decode :=
  h

end Variant

section

variable [DecidableEq τ] [VariantTag τ] {same : υ → υ → Prop}

/-- A union goes by name when its variants do. A single member has no other order, and several are
refused in every order. -/
theorem Registry.decode_byName {registry : Registry τ υ}
    (hvariants : ∀ variant ∈ registry.variants, ByName same variant.decode) :
    ByName same registry.decode := by
  intro value value' h
  cases h with
  | string name =>
    simp only [decode]
    cases hlookup : registry.lookup? name with
    | none => exact .error _ _
    | some variant =>
      simp only
      by_cases hshape : variant.shape = .unit
      · rw [if_pos hshape]
        exact hvariants variant (List.mem_of_find?_eq_some hlookup) .null
      · rw [if_neg hshape]
        exact .error _ _
  | @object members shuffled members' hdistinct horder hmembers =>
    have hlength : members.length = members'.length := horder.length_eq.trans hmembers.length_eq
    by_cases hone : members.length = 1
    · obtain ⟨member, rfl⟩ := List.length_eq_one_iff.mp hone
      obtain rfl := List.singleton_perm.mp horder
      cases hmembers with
      | cons hmember hrest =>
        cases hrest
        obtain ⟨name, hvalue⟩ := hmember
        simp only [decode]
        cases hlookup : registry.lookup? name with
        | none => exact .error _ _
        | some variant => exact hvariants variant (List.mem_of_find?_eq_some hlookup) hvalue
    · rw [decode_of_refuses (.memberCount hone), decode_of_refuses (.memberCount (hlength ▸ hone))]
      exact .error _ _
  | _ => exact .error _ _

/-- A union is decoded by name if all its variants are. -/
theorem Tagged.decode_byName {union : Tagged τ υ}
    (hvariants : ∀ variant ∈ union.registry.variants, ByName same variant.decode) :
    ByName same union.decode :=
  Registry.decode_byName hvariants

/-- The schema of a union reads what is decoded, and refuses in the words of the failure. -/
theorem Tagged.schema_read_eq_mapError (union : Tagged τ υ) (value : Json) :
    union.schema.read value = (union.decode value).mapError fun error =>
      .refused error.message := by
  simp only [schema]
  cases union.decode value <;> rfl

/-- A union goes by name as the type of a field when it does by itself. -/
theorem Tagged.schema_byName {union : Tagged τ υ} (h : ByName same union.decode) :
    ByName same union.schema.read := by
  intro value value' hvalue
  rw [schema_read_eq_mapError, schema_read_eq_mapError]
  exact (h hvalue).mapError _

/-- A union reads two values that differ in the order of members as one when it does by itself. -/
theorem Tagged.schema_unordered {union : Tagged τ υ} (h : ByName Eq union.decode) :
    union.schema.Unordered :=
  ⟨schema_byName h⟩

end

end LedgerWire
