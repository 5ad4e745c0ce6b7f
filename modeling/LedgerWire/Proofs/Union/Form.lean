import LedgerWire.Proofs.Union.Payload

/-!
# What the externally tagged form stands for

A union promises a form for each of its tags: no payload, one field with nothing around it, or an
object of fields. The form says which payloads there are and what value each of them gives. A
registry whose variants follow their forms decodes exactly what stands for a value: the name of a
variant without payload, or a payload under the name of the variant that it fits.
-/

namespace LedgerWire

variable {τ υ : Type}

/-- The form of a variant, with the value that is made of its payload. A nested field is read by a
codec of its own. -/
inductive Form (υ : Type) : Type 1 where
  | unit (value : υ)
  | unwrapped {α : Type} (schema : Schema α) (make : α → υ)
  | nested {α : Type} (read : Json → Except CodecError α) (make : α → υ)
  | structured {α : Type} (schema : Schema α) (make : α → υ)

namespace Form

/-- How the payload stands. -/
def shape : Form υ → Shape
  | unit _ => .unit
  | unwrapped _ _ | nested _ _ => .unwrapped
  | structured _ _ => .structured

/-- A payload gives a value: null where there is no payload, what is read as the one field, and an
object that is read as the fields. -/
inductive Builds : Form υ → Json → υ → Prop
  | unit {value : υ} : Builds (.unit value) .null value
  | unwrapped {α : Type} {schema : Schema α} {make : α → υ} {payload : Json} {field : α}
      (read : schema.read payload = .ok field) :
      Builds (.unwrapped schema make) payload (make field)
  | nested {α : Type} {read : Json → Except CodecError α} {make : α → υ} {payload : Json}
      {field : α} (decoded : read payload = .ok field) :
      Builds (.nested read make) payload (make field)
  | structured {α : Type} {schema : Schema α} {make : α → υ} {members : List (String × Json)}
      {fields : α} (read : schema.read (.object members) = .ok fields) :
      Builds (.structured schema make) (.object members) (make fields)

/-- Every value that is made has the tag. -/
def Makes (tagOf : υ → τ) (tag : τ) : Form υ → Prop
  | unit value => tagOf value = tag
  | unwrapped _ make | nested _ make | structured _ make => ∀ field, tagOf (make field) = tag

/-- What a form with a tag makes has this tag. -/
theorem Makes.tag_eq {tagOf : υ → τ} {tag : τ} {form : Form υ} {payload : Json} {value : υ}
    (hmakes : form.Makes tagOf tag) (hbuilds : form.Builds payload value) : tagOf value = tag := by
  cases hbuilds with
  | unit => exact hmakes
  | unwrapped | nested | structured => exact hmakes _

/-- Null is a payload of a form without payload, and of no other value than its own. -/
theorem builds_null_of_shape {form : Form υ} {value : υ} (hshape : form.shape = .unit) :
    form.Builds .null value ↔ form = .unit value := by
  cases form with
  | unit made =>
    constructor
    · rintro ⟨⟩
      rfl
    · rintro ⟨⟩
      exact .unit
  | unwrapped | nested | structured => cases hshape

variable [VariantTag τ]

/-- The variant of a tag that has the form. -/
def variant (tag : τ) : Form υ → Variant τ υ
  | unit value => .unit tag value
  | unwrapped schema make => .unwrapped tag schema make
  | nested read make => .nested tag read make
  | structured schema make => .structured tag schema make

/-- The variant of a form has its shape. -/
theorem variant_shape (tag : τ) (form : Form υ) : (form.variant tag).shape = form.shape := by
  cases form <;> rfl

end Form

variable [VariantTag τ]

/-! ### One variant -/

namespace Variant

variable {v : Variant τ υ} {form : Form υ}

/-- The variant has the form. -/
def Follows (v : Variant τ υ) (form : Form υ) : Prop :=
  v.shape = (form.variant v.tag).shape ∧ v.decode = (form.variant v.tag).decode

/-- A variant has the shape of the form that it follows. -/
theorem Follows.shape_eq (h : v.Follows form) : v.shape = form.shape :=
  h.1.trans (form.variant_shape v.tag)

/-- A payload is decoded just when the schema reads it, as the same value. -/
theorem decodePayload_eq_ok_iff {α : Type} {name : String} {schema : Schema α} {payload : Json}
    {value : α} :
    decodePayload name schema payload = .ok value ↔ schema.read payload = .ok value := by
  unfold decodePayload
  cases schema.read payload with
  | ok read => simp
  | error cause => simp

/-- A variant decodes what its form builds. -/
theorem Follows.decode_eq_ok_iff (h : v.Follows form) {payload : Json} {value : υ} :
    v.decode payload = .ok value ↔ form.Builds payload value := by
  rw [h.2]
  cases form with
  | unit made =>
    constructor
    · intro hdecode
      cases payload with
      | null =>
        cases hdecode
        exact .unit
      | _ => cases hdecode
    · rintro ⟨⟩
      rfl
  | unwrapped schema make =>
    show (decodePayload v.name schema payload).map make = .ok value ↔ _
    rw [Except.map_eq_ok_iff]
    constructor
    · rintro ⟨field, hread, rfl⟩
      exact .unwrapped (decodePayload_eq_ok_iff.mp hread)
    · rintro (_ | hread)
      exact ⟨_, decodePayload_eq_ok_iff.mpr hread, rfl⟩
  | nested read make =>
    show (read payload).map make = .ok value ↔ _
    rw [Except.map_eq_ok_iff]
    constructor
    · rintro ⟨field, hread, rfl⟩
      exact .nested hread
    · rintro (_ | _ | hread)
      exact ⟨_, hread, rfl⟩
  | structured schema make =>
    constructor
    · intro hdecode
      cases payload with
      | object members =>
        obtain ⟨fields, hread, rfl⟩ := Except.map_eq_ok_iff.mp hdecode
        exact .structured (decodePayload_eq_ok_iff.mp hread)
      | _ => cases hdecode
    · rintro (_ | _ | _ | hread)
      exact Except.map_eq_ok_iff.mpr ⟨_, decodePayload_eq_ok_iff.mpr hread, rfl⟩

/-- Where there is no payload, only null stands for none. -/
theorem Follows.decode_present (h : v.Follows form) (hshape : form.shape = .unit) {payload : Json}
    (hpresent : payload ≠ .null) :
    v.decode payload = .error (.typeMismatch (.noPayload v.name) (.kind payload.kind)) := by
  cases form with
  | unit value =>
    have hreads : v.Reads (.unit value) := h
    exact hreads.decode_eq_error_iff.mpr (.noPayload hpresent)
  | unwrapped | nested | structured => cases hshape

/-- The fields of a variant stand in an object. -/
theorem Follows.decode_notObject (h : v.Follows form) (hshape : form.shape = .structured)
    {payload : Json} (hother : ∀ members, payload ≠ .object members) :
    v.decode payload = .error (.typeMismatch (.objectPayload v.name) (.kind payload.kind)) := by
  cases form with
  | structured schema make =>
    have hreads : v.Reads (.structured schema make) := h
    exact hreads.decode_eq_error_iff.mpr (.notObject hother)
  | unit | unwrapped | nested => cases hshape

end Variant

/-! ### The whole union -/

/-- A value stands for a member of a union whose tags have the given forms: it is the name of a
variant without payload, or an object whose one member is a payload of the variant of its name. -/
inductive Stands (form : τ → Form υ) : Json → υ → Prop
  | name {tag : τ} {value : υ} (bare : form tag = .unit value) :
      Stands form (.string (VariantTag.name tag)) value
  | member {tag : τ} {payload : Json} {value : υ} (builds : (form tag).Builds payload value) :
      Stands form (.object [(VariantTag.name tag, payload)]) value

namespace Registry

variable [DecidableEq τ] {registry : Registry τ υ} {form : τ → Form υ}

/-- The variant of every tag has the form of that tag. -/
def Follows (registry : Registry τ υ) (form : τ → Form υ) : Prop :=
  ∀ tag, (registry.variant tag).Follows (form tag)

/-- A registry decodes exactly what stands for a value. -/
theorem Follows.decode_eq_ok_iff (h : registry.Follows form) {value : Json} {decoded : υ} :
    registry.decode value = .ok decoded ↔ Stands form value decoded := by
  constructor
  · intro hdecode
    rcases registry.decode_cases value with
      ⟨error, hrefuses⟩ | ⟨tag, rfl, hshape⟩ | ⟨tag, payload, rfl⟩
    · rw [decode_of_refuses hrefuses] at hdecode
      cases hdecode
    · rw [decode_name tag hshape, (h tag).decode_eq_ok_iff] at hdecode
      rw [(h tag).shape_eq] at hshape
      exact .name ((Form.builds_null_of_shape hshape).mp hdecode)
    · rw [decode_member, (h tag).decode_eq_ok_iff] at hdecode
      exact .member hdecode
  · rintro (@⟨tag, _, bare⟩ | @⟨tag, _, _, builds⟩)
    · have hunit : (form tag).shape = .unit := by rw [bare]; rfl
      have hshape : (registry.variant tag).shape = .unit := (h tag).shape_eq.trans hunit
      rw [decode_name tag hshape, (h tag).decode_eq_ok_iff]
      exact (Form.builds_null_of_shape hunit).mpr bare
    · rw [decode_member, (h tag).decode_eq_ok_iff]
      exact builds

/-- A text that is not the name of a variant without payload is unknown. -/
theorem Follows.decode_unknownText (h : registry.Follows form) {text : String}
    (hunknown : ∀ tag, VariantTag.name tag = text → (form tag).shape ≠ .unit) :
    registry.decode (.string text) = .error (.unknownVariant registry.family text) := by
  refine decode_of_refuses (.unknownText ?_)
  intro tag hname
  rw [(h tag).shape_eq]
  exact hunknown tag hname

/-- A payload where there is none is refused by its kind. -/
theorem Follows.decode_present (h : registry.Follows form) {tag : τ} {payload : Json}
    (hshape : (form tag).shape = .unit) (hpresent : payload ≠ .null) :
    registry.decode (.object [(VariantTag.name tag, payload)]) =
      .error (.typeMismatch (.noPayload (VariantTag.name tag)) (.kind payload.kind)) := by
  have hrefused := (h tag).decode_present hshape hpresent
  rw [decode_member, hrefused, Variant.name, variant_tag]

/-- A payload that is no object where there is one is refused by its kind. -/
theorem Follows.decode_notObject (h : registry.Follows form) {tag : τ} {payload : Json}
    (hshape : (form tag).shape = .structured) (hother : ∀ members, payload ≠ .object members) :
    registry.decode (.object [(VariantTag.name tag, payload)]) =
      .error (.typeMismatch (.objectPayload (VariantTag.name tag)) (.kind payload.kind)) := by
  have hrefused := (h tag).decode_notObject hshape hother
  rw [decode_member, hrefused, Variant.name, variant_tag]

end Registry

end LedgerWire
