import LedgerWire.Union.Registry

/-!
# Tagged unions

A tagged union is a type with a registry and a view of its values as a tag and a payload. Its
JSON form is the name of the tag alone, or an object whose one member is the payload under that
name. Read through its schema, a failure of the union keeps only its wording; decoded by the
registry, it keeps its kind.
-/

namespace LedgerWire

/-- A value of a tagged union taken apart: its tag, and its payload in JSON and as it appears in
a diagnostic. -/
structure Parts (τ : Type) where
  tag : τ
  payload : Option (Json × Shown)

namespace Parts

variable {τ α : Type}

/-- A value without payload. -/
def bare (tag : τ) : Parts τ := ⟨tag, none⟩

/-- A value with the given payload. -/
def carrying (tag : τ) (schema : Schema α) (payload : α) : Parts τ :=
  ⟨tag, some (schema.write payload, schema.shown payload)⟩

end Parts

/-- A type whose values are known by a tag. -/
structure Tagged (τ υ : Type) [DecidableEq τ] [VariantTag τ] where
  registry : Registry τ υ
  parts : υ → Parts τ

namespace Tagged

variable {τ υ : Type} [DecidableEq τ] [VariantTag τ]

/-- The tag of a value. -/
def tag (union : Tagged τ υ) (value : υ) : τ := (union.parts value).tag

/-- The name of the tag of a value. -/
def variantName (union : Tagged τ υ) (value : υ) : String := VariantTag.name (union.tag value)

/-- The payload of a value in JSON, if it has one. -/
def payload (union : Tagged τ υ) (value : υ) : Option Json :=
  (union.parts value).payload.map Prod.fst

/-- Decodes the externally tagged form. -/
def decode (union : Tagged τ υ) (value : Json) : Except CodecError υ :=
  union.registry.decode value

/-- The externally tagged form of a value. -/
def encode (union : Tagged τ υ) (value : υ) : Json :=
  match union.payload value with
  | none => .string (union.variantName value)
  | some payload => .object [(union.variantName value, payload)]

/-- A value as it appears in a diagnostic. -/
def shown (union : Tagged τ υ) (value : υ) : Shown :=
  match (union.parts value).payload with
  | none => .atom (union.variantName value)
  | some (_, payload) => .tuple (union.variantName value) [payload]

/-- Writes a value as the type of a field: the name of its tag as a text, or an object into which
the payload is put under that name. -/
def write (union : Tagged τ υ) (value : υ) : Json :=
  match (union.parts value).payload with
  | none => Schema.text.write (union.variantName value)
  | some (payload, _) => .object (Json.setMember (union.variantName value) payload [])

/-- A union as the type of a field. -/
def schema (union : Tagged τ υ) : Schema υ where
  read value :=
    match union.decode value with
    | .ok decoded => .ok decoded
    | .error error => .error (.refused error.message)
  write := union.write
  shown := union.shown

end Tagged

end LedgerWire
