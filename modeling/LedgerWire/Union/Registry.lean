import LedgerWire.CodecError
import LedgerWire.Json.Schema

/-!
# Tables of variants

A tagged union crosses the wire by a table that lists its variants: the tag, the shape of the
payload, the binary ordinal if there is one, and how the payload is decoded. A registry is a table
in which nothing is wrong: every tag is listed exactly once, and either no variant has an ordinal
or all of them have one and no two share it. The order of declaration of the tags plays no part
in what is written.
-/

namespace LedgerWire

/-- How the payload of a variant stands in its JSON form. -/
inductive Shape where
  /-- There is no payload: the variant is a bare text. -/
  | unit
  /-- The payload is the one field of the variant, with no object around it. -/
  | unwrapped
  /-- The payload is an object with the fields of the variant. -/
  | structured
  deriving DecidableEq

/-- The name of a shape. -/
def Shape.name : Shape → String
  | .unit => "Unit"
  | .unwrapped => "Unwrapped"
  | .structured => "Structured"

/-- The tags of a closed union, listed in the order of their declaration. No two tags have the
same name on the wire. -/
class VariantTag (τ : Type) where
  all : List τ
  name : τ → String
  mem_all : ∀ tag, tag ∈ all
  nodup_names : (all.map name).Nodup

/-- One line of a table: a tag and how its payload is read. -/
structure Variant (τ υ : Type) where
  tag : τ
  shape : Shape
  ordinal : Option UInt8
  decode : Json → Except CodecError υ

namespace Variant

variable {τ υ α : Type} [VariantTag τ]

/-- The name of a variant on the wire. -/
def name (variant : Variant τ υ) : String := VariantTag.name variant.tag

/-- Reads a payload through a schema, whose failure is reported with the name of the variant. -/
def decodePayload (name : String) (schema : Schema α) (payload : Json) : Except CodecError α :=
  match schema.read payload with
  | .ok value => .ok value
  | .error error => .error (.typeMismatch (.payload name) (.unreadable error))

/-- A variant without payload. In the object form its payload is null. -/
def unit (tag : τ) (value : υ) : Variant τ υ where
  tag := tag
  shape := .unit
  ordinal := none
  decode
    | .null => .ok value
    | payload => .error (.typeMismatch (.noPayload (VariantTag.name tag)) (.kind payload.kind))

/-- A variant whose payload is its one field. -/
def unwrapped (tag : τ) (schema : Schema α) (make : α → υ) : Variant τ υ where
  tag := tag
  shape := .unwrapped
  ordinal := none
  decode payload := (decodePayload (VariantTag.name tag) schema payload).map make

/-- A variant whose one field is decoded by a codec of its own, so that a failure inside it
stays the failure it is. -/
def nested (tag : τ) (decode : Json → Except CodecError α) (make : α → υ) : Variant τ υ where
  tag := tag
  shape := .unwrapped
  ordinal := none
  decode payload := (decode payload).map make

/-- A variant whose payload is an object with its fields. -/
def structured (tag : τ) (schema : Schema α) (make : α → υ) : Variant τ υ where
  tag := tag
  shape := .structured
  ordinal := none
  decode
    | .object members =>
      (decodePayload (VariantTag.name tag) schema (.object members)).map make
    | payload => .error (.typeMismatch (.objectPayload (VariantTag.name tag)) (.kind payload.kind))

/-- The variant with a binary ordinal. -/
def withOrdinal (ordinal : UInt8) (variant : Variant τ υ) : Variant τ υ :=
  { variant with ordinal := some ordinal }

/-- The variant as it appears in a diagnostic. -/
def shown (variant : Variant τ υ) : Shown :=
  .record "Variant"
    [("name", .text variant.name), ("shape", .atom variant.shape.name),
      ("ordinal", .option (variant.ordinal.map fun ordinal => .nat ordinal.toNat))]

end Variant

/-- What is wrong with a table. -/
inductive TableFault (τ : Type) where
  | repeated (tag : τ)
  | sharedOrdinal (ordinal : UInt8) (first second : τ)
  | missing (tag : τ)
  | partialOrdinals (assigned size : Nat)

/-- The wording of a fault in the table of a family. -/
def TableFault.message {τ : Type} [VariantTag τ] (family : String) : TableFault τ → String
  | .repeated tag => family ++ ": variant " ++ VariantTag.name tag ++ " registered twice"
  | .sharedOrdinal ordinal first second =>
    family ++ ": ordinal " ++ Decimal.write ordinal.toNat ++ " assigned to both " ++
      VariantTag.name first ++ " and " ++ VariantTag.name second
  | .missing tag => family ++ ": variant " ++ VariantTag.name tag ++ " missing from registry"
  | .partialOrdinals assigned size =>
    family ++ ": ordinals assigned to " ++ Decimal.write assigned ++ " of " ++
      Decimal.write size ++ " variants"

namespace TableFault

variable {τ υ : Type} [DecidableEq τ] [VariantTag τ]

/-- The earlier variant that has the ordinal of the given one. -/
def holder? (earlier : List (Variant τ υ)) (variant : Variant τ υ) : Option (UInt8 × τ) :=
  variant.ordinal.bind fun ordinal =>
    (earlier.find? (·.ordinal == some ordinal)).map fun other => (ordinal, other.tag)

/-- The first variant that repeats a tag or an ordinal of an earlier one. On one variant the tag
is looked at first. -/
def repeated? (earlier : List (Variant τ υ)) : List (Variant τ υ) → Option (TableFault τ)
  | [] => none
  | variant :: rest =>
    if earlier.any (·.tag == variant.tag) then some (.repeated variant.tag)
    else
      match holder? earlier variant with
      | some (ordinal, other) => some (.sharedOrdinal ordinal other variant.tag)
      | none => repeated? (earlier ++ [variant]) rest

/-- The first tag in the order of declaration that the table does not list. -/
def missing? (variants : List (Variant τ υ)) : Option (TableFault τ) :=
  (VariantTag.all.find? fun tag => !variants.any (·.tag == tag)).map .missing

/-- Whether some variants have an ordinal and others have none. -/
def partial? (variants : List (Variant τ υ)) : Option (TableFault τ) :=
  let assigned := variants.countP (·.ordinal.isSome)
  if assigned ≠ 0 ∧ assigned ≠ variants.length then
    some (.partialOrdinals assigned variants.length)
  else none

/-- The first thing wrong with a table. -/
def of? (variants : List (Variant τ υ)) : Option (TableFault τ) :=
  (repeated? [] variants).or ((missing? variants).or (partial? variants))

end TableFault

/-- A family name and a table in which nothing is wrong. -/
structure Registry (τ υ : Type) [DecidableEq τ] [VariantTag τ] where
  family : String
  variants : List (Variant τ υ)
  of?_variants : TableFault.of? variants = none

namespace Registry

variable {τ υ : Type} [DecidableEq τ] [VariantTag τ]

/-- The registry of a table, or the first thing wrong with it. -/
def ofTable (family : String) (variants : List (Variant τ υ)) :
    Except (TableFault τ) (Registry τ υ) :=
  match h : TableFault.of? variants with
  | none => .ok ⟨family, variants, h⟩
  | some fault => .error fault

/-- How many variants there are. -/
def size (registry : Registry τ υ) : Nat := registry.variants.length

/-- Whether the variants have binary ordinals. -/
def hasOrdinals (registry : Registry τ υ) : Bool := registry.variants.any (·.ordinal.isSome)

/-- The variant with the given name on the wire. -/
def lookup? (registry : Registry τ υ) (name : String) : Option (Variant τ υ) :=
  registry.variants.find? (·.name == name)

/-- Every tag is listed. -/
theorem exists_tag (registry : Registry τ υ) (tag : τ) :
    (registry.variants.find? (·.tag == tag)).isSome := by
  have clean := registry.of?_variants
  simp only [TableFault.of?, Option.or_eq_none_iff, TableFault.missing?, Option.map_eq_none_iff,
    List.find?_eq_none] at clean
  have listed := clean.2.1 tag (VariantTag.mem_all tag)
  simpa [List.find?_isSome] using listed

/-- The variant of a tag. -/
def variant (registry : Registry τ υ) (tag : τ) : Variant τ υ :=
  (registry.variants.find? (·.tag == tag)).get (registry.exists_tag tag)

/-- In a registry with ordinals every variant has one. -/
theorem ordinal_isSome (registry : Registry τ υ) (numbered : registry.hasOrdinals = true)
    {variant : Variant τ υ} (listed : variant ∈ registry.variants) :
    variant.ordinal.isSome = true := by
  have clean := registry.of?_variants
  simp only [TableFault.of?, Option.or_eq_none_iff, TableFault.partial?] at clean
  have counts := clean.2.2
  simp only [ite_eq_right_iff, reduceCtorEq, imp_false, not_and, Decidable.not_not] at counts
  have some_numbered : registry.variants.countP (·.ordinal.isSome) ≠ 0 := by
    simp only [hasOrdinals, List.any_eq_true] at numbered
    rw [Ne, List.countP_eq_zero]
    intro none_numbered
    obtain ⟨other, mem, is_some⟩ := numbered
    exact none_numbered other mem is_some
  exact List.countP_eq_length.mp (counts some_numbered) variant listed

/-- The variant of a tag is listed. -/
theorem variant_mem (registry : Registry τ υ) (tag : τ) :
    registry.variant tag ∈ registry.variants :=
  List.mem_of_find?_eq_some (Option.some_get (registry.exists_tag tag)).symm

/-- The ordinal of a tag, in a registry that has ordinals. -/
def ordinalOf (registry : Registry τ υ) (numbered : registry.hasOrdinals = true) (tag : τ) :
    UInt8 :=
  (registry.variant tag).ordinal.get (registry.ordinal_isSome numbered (registry.variant_mem tag))

/-- The ordinal of a tag. Families without ordinals have no binary form. -/
def ordinal (registry : Registry τ υ) (tag : τ) : Except CodecError UInt8 :=
  match (registry.variant tag).ordinal with
  | some ordinal => .ok ordinal
  | none => .error (.format (.noOrdinals registry.family))

/-- The tag with the given ordinal. -/
def tagOf (registry : Registry τ υ) (ordinal : UInt8) : Except CodecError τ :=
  match registry.variants.find? (·.ordinal == some ordinal) with
  | some variant => .ok variant.tag
  | none => .error (.unknownVariant registry.family (Decimal.write ordinal.toNat))

/-- Decodes the externally tagged form: a text names a variant without payload, and an object
with one member names a variant and gives its payload. -/
def decode (registry : Registry τ υ) : Json → Except CodecError υ
  | .string tag =>
    match registry.lookup? tag with
    | some variant =>
      if variant.shape = .unit then variant.decode .null
      else .error (.unknownVariant registry.family tag)
    | none => .error (.unknownVariant registry.family tag)
  | .object [(tag, payload)] =>
    match registry.lookup? tag with
    | some variant => variant.decode payload
    | none => .error (.unknownVariant registry.family tag)
  | .object members => .error (.format (.memberCount registry.family members.length))
  | value => .error (.typeMismatch (.union registry.family) (.kind value.kind))

/-- The registry as it appears in a diagnostic. -/
def shown (registry : Registry τ υ) : Shown :=
  .record "Registry"
    [("family", .text registry.family),
      ("variants", .list "" (registry.variants.map Variant.shown))]

end Registry

end LedgerWire
