import LedgerWire.Proofs.Json.RoundTrip
import LedgerWire.Proofs.Union.Payload
import Mathlib.Logic.Relation

/-!
# Where the failure of a nested union comes from

An execution error is a tree of unions: the payload of some variants is a union again, or the
record of an action error, whose kind is one. Decoding goes down the tree as long as it finds such
a payload. It fails in the words of the innermost place it reaches, and what is unknown there is
reported for the union of that place.
-/

namespace LedgerWire

open Relation (ReflTransGen)

/-! ### Variants that nest -/

/-- The variants of a union whose payload is decoded by a codec of its own. -/
inductive Nested : UnionType → Type where
  | statusFailure : Nested .executionStatus
  | finalStatusFailure : Nested .finalExecutionStatus
  | actionError : Nested .txExecutionError
  | invalidTxError : Nested .txExecutionError
  | functionCallError : Nested .actionErrorKind
  | compilationError : Nested .functionCallError
  | methodResolveError : Nested .functionCallError
  | wasmTrap : Nested .functionCallError
  | invalidAccessKeyError : Nested .invalidTxError

/-- What is decoded at a place of a tree: a union, or the record of an action error. -/
inductive Place where
  | union (type : UnionType)
  | actionError

namespace Place

/-- The values at a place. -/
@[reducible]
def Value : Place → Type
  | union type => type.Value
  | actionError => ActionError

/-- Decodes what stands at a place. -/
def decode : (place : Place) → Json → Except CodecError place.Value
  | union type => type.union.decode
  | actionError => ActionError.decode

end Place

namespace Nested

/-- The tag of a nesting variant. -/
def tag : {type : UnionType} → Nested type → type.Tag
  | _, statusFailure => ExecutionStatus.Tag.failure
  | _, finalStatusFailure => FinalExecutionStatus.Tag.failure
  | _, actionError => TxExecutionError.Tag.actionError
  | _, invalidTxError => TxExecutionError.Tag.invalidTxError
  | _, functionCallError => ActionErrorKind.Tag.functionCallError
  | _, compilationError => FunctionCallError.Tag.compilationError
  | _, methodResolveError => FunctionCallError.Tag.methodResolveError
  | _, wasmTrap => FunctionCallError.Tag.wasmTrap
  | _, invalidAccessKeyError => InvalidTxError.Tag.invalidAccessKeyError

/-- What the payload of a nesting variant is. -/
def inner : {type : UnionType} → Nested type → Place
  | _, statusFailure | _, finalStatusFailure => .union .txExecutionError
  | _, actionError => .actionError
  | _, invalidTxError => .union .invalidTxError
  | _, functionCallError => .union .functionCallError
  | _, compilationError => .union .compilationError
  | _, methodResolveError => .union .methodResolveError
  | _, wasmTrap => .union .wasmTrap
  | _, invalidAccessKeyError => .union .invalidAccessKeyError

/-- The value of a nesting variant with the given payload. -/
def wrap : {type : UnionType} → (n : Nested type) → n.inner.Value → type.Value
  | _, statusFailure => ExecutionStatus.failure
  | _, finalStatusFailure => FinalExecutionStatus.failure
  | _, actionError => TxExecutionError.actionError
  | _, invalidTxError => TxExecutionError.invalidTxError
  | _, functionCallError => ActionErrorKind.functionCallError
  | _, compilationError => FunctionCallError.compilationError
  | _, methodResolveError => FunctionCallError.methodResolveError
  | _, wasmTrap => FunctionCallError.wasmTrap
  | _, invalidAccessKeyError => InvalidTxError.invalidAccessKeyError

/-- The name of a nesting variant. -/
def name {type : UnionType} (n : Nested type) : String := VariantTag.name n.tag

/-- Two nested variants of a union with one tag are the same. -/
theorem tag_injective {type : UnionType} {m n : Nested type} (h : m.tag = n.tag) : m = n := by
  cases m <;> cases n <;> trivial

/-- Two nested variants of a union with one name are the same. -/
theorem name_injective {type : UnionType} {m n : Nested type} (h : m.name = n.name) : m = n :=
  tag_injective (VariantTag.name_injective h)

/-- The registry lists a nesting variant with the codec of its payload. -/
theorem variant_decode {type : UnionType} (n : Nested type) (payload : Json) :
    (type.union.registry.variant n.tag).decode payload = (n.inner.decode payload).map n.wrap := by
  cases n <;> rfl

/-- A nested payload is decoded by its own codec: the value is wrapped, a failure stays the failure
that it is. -/
theorem decode_member {type : UnionType} (n : Nested type) (payload : Json) :
    type.union.decode (.object [(n.name, payload)]) = (n.inner.decode payload).map n.wrap := by
  rw [← n.variant_decode payload]
  exact Registry.decode_member n.tag payload

end Nested

/-! ### Variants that do not nest -/

namespace Variant

variable {τ υ α : Type} [VariantTag τ]

/-- The variant reads its payload itself. -/
def ReadsItself (v : Variant τ υ) : Prop := ∃ reading, v.Reads reading

/-- A variant without payload reads itself. -/
@[simp] theorem unit_readsItself (tag : τ) (value : υ) : (unit tag value).ReadsItself :=
  ⟨.unit value, rfl, rfl⟩

/-- A variant that is its one field reads itself. -/
@[simp] theorem unwrapped_readsItself (tag : τ) (schema : Schema α) (make : α → υ) :
    (unwrapped tag schema make).ReadsItself :=
  ⟨.unwrapped schema make, rfl, rfl⟩

/-- A variant with named fields reads itself. -/
@[simp] theorem structured_readsItself (tag : τ) (schema : Schema α) (make : α → υ) :
    (structured tag schema make).ReadsItself :=
  ⟨.structured schema make, rfl, rfl⟩

omit [VariantTag τ] in
/-- A nested variant has the tag that it is declared with. -/
@[simp] theorem nested_tag (tag : τ) (decode : Json → Except CodecError α) (make : α → υ) :
    (nested tag decode make).tag = tag := rfl

/-- An ordinal plays no part in reading a payload. -/
@[simp] theorem withOrdinal_readsItself {ordinal : UInt8} {v : Variant τ υ} :
    (v.withOrdinal ordinal).ReadsItself ↔ v.ReadsItself := Iff.rfl

end Variant

namespace UnionType

/-- Every variant that a union lists reads its payload itself or nests. -/
theorem readsItself_or_nested (type : UnionType) :
    ∀ v ∈ type.union.registry.variants, v.ReadsItself ∨ ∃ n : Nested type, n.tag = v.tag := by
  cases type with
  | accessKeyPermission => simp [union, AccessKeyPermission.union, AccessKeyPermission.registry]
  | action => simp [union, Action.union, Action.registry]
  | compilationError => simp [union, CompilationError.union, CompilationError.registry]
  | invalidAccessKeyError =>
    simp [union, InvalidAccessKeyError.union, InvalidAccessKeyError.registry]
  | methodResolveError => simp [union, MethodResolveError.union, MethodResolveError.registry]
  | wasmTrap => simp [union, WasmTrap.union, WasmTrap.registry]
  | actionErrorKind =>
    have hcall : ∃ n : Nested .actionErrorKind, n.tag = ActionErrorKind.Tag.functionCallError :=
      ⟨.functionCallError, rfl⟩
    simp [union, ActionErrorKind.union, ActionErrorKind.registry, hcall]
  | executionStatus =>
    have hfailure : ∃ n : Nested .executionStatus, n.tag = ExecutionStatus.Tag.failure :=
      ⟨.statusFailure, rfl⟩
    simp [union, ExecutionStatus.union, ExecutionStatus.registry, hfailure]
  | finalExecutionStatus =>
    have hfailure : ∃ n : Nested .finalExecutionStatus, n.tag = FinalExecutionStatus.Tag.failure :=
      ⟨.finalStatusFailure, rfl⟩
    simp [union, FinalExecutionStatus.union, FinalExecutionStatus.registry, hfailure]
  | functionCallError =>
    have hcompile : ∃ n : Nested .functionCallError,
        n.tag = FunctionCallError.Tag.compilationError := ⟨.compilationError, rfl⟩
    have hresolve : ∃ n : Nested .functionCallError,
        n.tag = FunctionCallError.Tag.methodResolveError := ⟨.methodResolveError, rfl⟩
    have htrap : ∃ n : Nested .functionCallError, n.tag = FunctionCallError.Tag.wasmTrap :=
      ⟨.wasmTrap, rfl⟩
    simp [union, FunctionCallError.union, FunctionCallError.registry, hcompile, hresolve, htrap]
  | invalidTxError =>
    have hkey : ∃ n : Nested .invalidTxError, n.tag = InvalidTxError.Tag.invalidAccessKeyError :=
      ⟨.invalidAccessKeyError, rfl⟩
    simp [union, InvalidTxError.union, InvalidTxError.registry, hkey]
  | txExecutionError =>
    have haction : ∃ n : Nested .txExecutionError, n.tag = TxExecutionError.Tag.actionError :=
      ⟨.actionError, rfl⟩
    have hinvalid : ∃ n : Nested .txExecutionError, n.tag = TxExecutionError.Tag.invalidTxError :=
      ⟨.invalidTxError, rfl⟩
    simp [union, TxExecutionError.union, TxExecutionError.registry, haction, hinvalid]

/-- Every variant reads its payload itself or nests. -/
theorem variant_readsItself_or_nested (type : UnionType) (tag : type.Tag) :
    (type.union.registry.variant tag).ReadsItself ∨ ∃ n : Nested type, n.tag = tag := by
  have h := type.readsItself_or_nested _ (type.union.registry.variant_mem tag)
  rwa [Registry.variant_tag] at h

end UnionType

/-- A nesting variant is not one that reads its payload itself: its shape is unwrapped, and it is
no variant without payload. -/
theorem Nested.variant_shape {type : UnionType} (n : Nested type) :
    (type.union.registry.variant n.tag).shape = .unwrapped := by
  cases n <;> rfl

/-! ### Action errors -/

namespace ActionError

/-- The index among the members of an action error: there is none when it is absent or null, and
otherwise it is an unsigned number. -/
inductive HasIndex (members : List (String × Json)) : Option UInt64 → Prop where
  | absent (lookup : members.lookup "index" = none) : HasIndex members none
  | null (lookup : members.lookup "index" = some .null) : HasIndex members none
  | word {word : UInt64} (lookup : members.lookup "index" = some (.ofUInt64 word)) :
      HasIndex members (some word)

/-- An index that is there, is not null and is no unsigned number. -/
def BadIndex (members : List (String × Json)) (index : Json) : Prop :=
  members.lookup "index" = some index ∧ index ≠ .null ∧ ∀ word, index ≠ .ofUInt64 word

/-- What is there and not null is read as a word. -/
theorem decodeIndex_some {value : Json} (hnull : value ≠ .null) :
    decodeIndex (some value) =
      match value.uint64? with
      | some index => .ok (some index)
      | none => .error (.typeMismatch .actionIndex (.kind value.kind)) := by
  cases value with
  | null => exact absurd rfl hnull
  | _ => rfl

/-- An index is decoded just when the members have it. -/
theorem decodeIndex_eq_ok_iff {members : List (String × Json)} {index : Option UInt64} :
    decodeIndex (members.lookup "index") = .ok index ↔ HasIndex members index := by
  constructor
  · intro h
    cases hlookup : members.lookup "index" with
    | none =>
      rw [hlookup] at h
      cases h
      exact .absent hlookup
    | some value =>
      by_cases hnull : value = .null
      · subst hnull
        rw [hlookup] at h
        cases h
        exact .null hlookup
      · rw [hlookup, decodeIndex_some hnull] at h
        cases hword : value.uint64? with
        | none => simp [hword] at h
        | some word =>
          simp only [hword, Except.ok.injEq] at h
          rw [Json.uint64?_eq_some_iff.mp hword] at hlookup
          exact h ▸ .word hlookup
  · rintro (hlookup | hlookup | hlookup)
    · rw [hlookup, decodeIndex]
    · rw [hlookup, decodeIndex]
    · rw [hlookup, decodeIndex_some (by simp [Json.ofUInt64]), Json.uint64?_ofUInt64]

/-- An index is refused just when it is neither missing nor a number, by its kind. -/
theorem decodeIndex_eq_error_iff {members : List (String × Json)} {error : CodecError} :
    decodeIndex (members.lookup "index") = .error error ↔
      ∃ index, BadIndex members index ∧
        error = .typeMismatch .actionIndex (.kind index.kind) := by
  constructor
  · intro h
    cases hlookup : members.lookup "index" with
    | none => simp [hlookup, decodeIndex] at h
    | some value =>
      by_cases hnull : value = .null
      · simp [hlookup, hnull, decodeIndex] at h
      · rw [hlookup, decodeIndex_some hnull] at h
        cases hword : value.uint64? with
        | some word => simp [hword] at h
        | none =>
          simp only [hword, Except.error.injEq] at h
          refine ⟨value, ⟨hlookup, hnull, ?_⟩, h.symm⟩
          rintro word rfl
          simp [Json.uint64?_ofUInt64] at hword
  · rintro ⟨index, ⟨hlookup, hnull, hword⟩, rfl⟩
    have hnone : index.uint64? = none :=
      Option.eq_none_iff_forall_ne_some.mpr fun word h =>
        hword word (Json.uint64?_eq_some_iff.mp h)
    rw [hlookup, decodeIndex_some hnull, hnone]

end ActionError

/-! ### Going down a tree -/

/-- One step down a tree: to the payload of a nesting variant, which is the one member of its
object, or from an action error to its kind, when there is one and the index is fine. -/
inductive Step : Place × Json → Place × Json → Prop where
  | payload {type : UnionType} (n : Nested type) (payload : Json) :
      Step (.union type, .object [(n.name, payload)]) (n.inner, payload)
  | kind {members : List (String × Json)} {index : Option UInt64} {kind : Json}
      (hindex : ActionError.HasIndex members index)
      (hkind : members.lookup "kind" = some kind) :
      Step (.actionError, .object members) (.union .actionErrorKind, kind)

/-- What a place refuses by itself, without going further down. A union refuses what names none
of its variants, and the payload of a variant that does not nest. An action error has to be an
object; its index is looked at next, and then whether there is a kind. -/
inductive Raises : Place × Json → CodecError → Prop where
  | union {type : UnionType} {value : Json} {error : CodecError}
      (refuses : type.union.registry.Refuses value error) : Raises (.union type, value) error
  | payload {type : UnionType} {tag : type.Tag} {reading : Reading type.Value} {payload : Json}
      {error : CodecError} (own : ∀ n : Nested type, n.tag ≠ tag)
      (reads : (type.union.registry.variant tag).Reads reading)
      (refuses : reading.Refuses (VariantTag.name tag) payload error) :
      Raises (.union type, .object [(VariantTag.name tag, payload)]) error
  | notObject {value : Json} (other : ∀ members, value ≠ .object members) :
      Raises (.actionError, value) (.typeMismatch .actionError (.kind value.kind))
  | badIndex {members : List (String × Json)} {index : Json}
      (bad : ActionError.BadIndex members index) :
      Raises (.actionError, .object members) (.typeMismatch .actionIndex (.kind index.kind))
  | missingKind {members : List (String × Json)} {index : Option UInt64}
      (hindex : ActionError.HasIndex members index) (missing : members.lookup "kind" = none) :
      Raises (.actionError, .object members) (.format .missingKind)

namespace ActionError

/-- The index is bad, or it is fine and then there is one reading of it. -/
theorem badIndex_or_hasIndex (members : List (String × Json)) :
    (∃ index, BadIndex members index) ∨ ∃ index, HasIndex members index := by
  cases h : decodeIndex (members.lookup "index") with
  | ok index => exact Or.inr ⟨index, decodeIndex_eq_ok_iff.mp h⟩
  | error error =>
    obtain ⟨index, hbad, -⟩ := decodeIndex_eq_error_iff.mp h
    exact Or.inl ⟨index, hbad⟩

/-- What is no object is no action error, and is refused by its kind. -/
theorem decode_notObject {value : Json} (hother : ∀ members, value ≠ .object members) :
    decode value = .error (.typeMismatch .actionError (.kind value.kind)) := by
  cases value with
  | object members => exact absurd rfl (hother members)
  | _ => rfl

/-- A bad index is reported whatever the kind is. -/
theorem decode_badIndex {members : List (String × Json)} {index : Json}
    (hbad : BadIndex members index) :
    decode (.object members) = .error (.typeMismatch .actionIndex (.kind index.kind)) := by
  have hindex := decodeIndex_eq_error_iff.mpr ⟨index, hbad, rfl⟩
  rw [decode, hindex, Except.error_bind]

/-- Without a kind an action error is refused, once its index is fine. -/
theorem decode_missingKind {members : List (String × Json)} {index : Option UInt64}
    (hindex : HasIndex members index) (hmissing : members.lookup "kind" = none) :
    decode (.object members) = .error (.format .missingKind) := by
  simp only [decode, decodeIndex_eq_ok_iff.mpr hindex, Except.ok_bind, hmissing]
  rfl

/-- With a fine index an action error succeeds and fails as its kind does. -/
theorem decode_kind {members : List (String × Json)} {index : Option UInt64} {kind : Json}
    (hindex : HasIndex members index) (hkind : members.lookup "kind" = some kind) :
    decode (.object members) =
      (ActionErrorKind.union.decode kind).map fun kind => ⟨index, kind⟩ := by
  simp only [decode, decodeIndex_eq_ok_iff.mpr hindex, Except.ok_bind, hkind]
  cases ActionErrorKind.union.decode kind <;> rfl

end ActionError

namespace Step

variable {here next : Place × Json}

/-- A step wraps the value that is decoded below, and passes on a failure. -/
theorem decode_eq (hstep : Step here next) :
    ∃ wrap : next.1.Value → here.1.Value,
      here.1.decode here.2 = (next.1.decode next.2).map wrap := by
  cases hstep with
  | payload n payload => exact ⟨n.wrap, n.decode_member payload⟩
  | kind hindex hkind => exact ⟨_, ActionError.decode_kind hindex hkind⟩

/-- One step down the tree the failure stays the same. -/
theorem decode_eq_error_iff (hstep : Step here next) {error : CodecError} :
    here.1.decode here.2 = .error error ↔ next.1.decode next.2 = .error error := by
  obtain ⟨wrap, hwrap⟩ := hstep.decode_eq
  rw [hwrap, Except.map_eq_error_iff]

/-- The one member of the object tells the variant. -/
theorem eq_of_payload {type : UnionType} {n : Nested type} {payload : Json}
    (hstep : Step (.union type, .object [(n.name, payload)]) next) : next = (n.inner, payload) := by
  generalize hhere : (Place.union type, Json.object [(n.name, payload)]) = here at hstep
  cases hstep with
  | payload m payload' =>
    simp only [Prod.mk.injEq, Place.union.injEq, Json.object.injEq, List.cons.injEq] at hhere
    obtain ⟨rfl, ⟨hname, rfl⟩, -⟩ := hhere
    rw [Nested.name_injective hname]
  | kind => cases hhere

/-- There is at most one step from a place. -/
theorem unique {other : Place × Json} (hnext : Step here next) (hother : Step here other) :
    next = other := by
  cases hnext with
  | payload n payload => exact (eq_of_payload hother).symm
  | kind hindex hkind =>
    cases hother with
    | kind hindex' hkind' =>
      rw [hkind, Option.some.injEq] at hkind'
      rw [hkind']

end Step

/-- A failure is the same all the way down. -/
theorem decode_eq_error_iff_of_reaches {here inner : Place × Json}
    (hreaches : ReflTransGen Step here inner) {error : CodecError} :
    here.1.decode here.2 = .error error ↔ inner.1.decode inner.2 = .error error := by
  induction hreaches with
  | refl => exact Iff.rfl
  | tail _ hstep ih => exact ih.trans hstep.decode_eq_error_iff

/-! ### Innermost places -/

namespace Raises

variable {here : Place × Json} {error : CodecError}

/-- What a place refuses by itself it fails with. -/
theorem decode_eq_error (hraises : Raises here error) : here.1.decode here.2 = .error error := by
  cases hraises with
  | union refuses => exact Registry.decode_of_refuses refuses
  | @payload type tag reading payload error own reads refuses =>
    rw [← type.union.registry.variant_tag tag] at refuses
    exact (Registry.decode_member tag payload).trans (reads.decode_eq_error_iff.mpr refuses)
  | notObject other => exact ActionError.decode_notObject other
  | badIndex bad => exact ActionError.decode_badIndex bad
  | missingKind hindex missing => exact ActionError.decode_missingKind hindex missing

/-- A union refuses a value by itself when it finds no variant, or when a variant that holds no
union refuses its payload. -/
theorem union_iff {type : UnionType} {value : Json} :
    Raises (.union type, value) error ↔
      type.union.registry.Refuses value error ∨
        ∃ (tag : type.Tag) (reading : Reading type.Value) (payload : Json),
          value = .object [(VariantTag.name tag, payload)] ∧ (∀ n : Nested type, n.tag ≠ tag) ∧
            (type.union.registry.variant tag).Reads reading ∧
            reading.Refuses (VariantTag.name tag) payload error := by
  constructor
  · intro h
    generalize hhere : (Place.union type, value) = here at h
    cases h with
    | union refuses => cases hhere; exact Or.inl refuses
    | payload own reads refuses => cases hhere; exact Or.inr ⟨_, _, _, rfl, own, reads, refuses⟩
    | notObject | badIndex | missingKind => cases hhere
  · rintro (hrefuses | ⟨tag, reading, payload, rfl, hown, hreads, hrefuses⟩)
    · exact .union hrefuses
    · exact .payload hown hreads hrefuses

/-- There is nothing below a place that refuses by itself. -/
theorem not_step (hraises : Raises here error) (next : Place × Json) : ¬Step here next := by
  intro hstep
  cases hstep with
  | @payload type n payload =>
    rcases union_iff.mp hraises with hrefuses | ⟨tag, reading, payload', hvalue, hown, -⟩
    · cases hrefuses with
      | notTagged noText noObject => exact noObject _ rfl
      | memberCount count => exact count rfl
      | unknownMember unknown => exact unknown n.tag rfl
    · simp only [Json.object.injEq, List.cons.injEq, Prod.mk.injEq] at hvalue
      exact hown n (VariantTag.name_injective hvalue.1.1)
  | kind hindex hkind =>
    cases hraises with
    | notObject other => exact other _ rfl
    | badIndex bad =>
      have hbad := ActionError.decodeIndex_eq_error_iff.mpr ⟨_, bad, rfl⟩
      rw [ActionError.decodeIndex_eq_ok_iff.mpr hindex] at hbad
      cases hbad
    | missingKind _ missing =>
      rw [hkind] at missing
      cases missing

end Raises

/-- A place with nothing below it fails only with what it refuses by itself. -/
theorem raises_of_innermost {here : Place × Json} {error : CodecError}
    (hinnermost : ∀ next, ¬Step here next) (hfails : here.1.decode here.2 = .error error) :
    Raises here error := by
  obtain ⟨place, value⟩ := here
  cases place with
  | union type =>
    have hdecode : type.union.registry.decode value = .error error := hfails
    rcases type.union.registry.decode_cases value with ⟨other, hrefuses⟩ | ⟨tag, rfl, hshape⟩ |
      ⟨tag, payload, rfl⟩
    · rw [Registry.decode_of_refuses hrefuses, Except.error.injEq] at hdecode
      exact .union (hdecode ▸ hrefuses)
    · rcases type.variant_readsItself_or_nested tag with ⟨reading, hreads⟩ | ⟨n, rfl⟩
      · obtain ⟨decoded, hnull⟩ := hreads.decode_null hshape
        rw [Registry.decode_name tag hshape, hnull] at hdecode
        cases hdecode
      · rw [n.variant_shape] at hshape
        cases hshape
    · by_cases hnested : ∃ n : Nested type, n.tag = tag
      · obtain ⟨n, rfl⟩ := hnested
        exact absurd (Step.payload n payload) (hinnermost _)
      · obtain ⟨reading, hreads⟩ := (type.variant_readsItself_or_nested tag).resolve_right hnested
        rw [Registry.decode_member, hreads.decode_eq_error_iff, Variant.name,
          Registry.variant_tag] at hdecode
        exact .payload (fun n htag => hnested ⟨n, htag⟩) hreads hdecode
  | actionError =>
    by_cases hobject : ∃ members, value = .object members
    · obtain ⟨members, rfl⟩ := hobject
      rcases ActionError.badIndex_or_hasIndex members with ⟨index, hbad⟩ | ⟨index, hindex⟩
      · cases hfails.symm.trans (ActionError.decode_badIndex hbad)
        exact .badIndex hbad
      · cases hkind : members.lookup "kind" with
        | none =>
          cases hfails.symm.trans (ActionError.decode_missingKind hindex hkind)
          exact .missingKind hindex hkind
        | some kind => exact absurd (Step.kind hindex hkind) (hinnermost _)
    · have hother : ∀ members, value ≠ .object members := fun members h => hobject ⟨members, h⟩
      cases hfails.symm.trans (ActionError.decode_notObject hother)
      exact .notObject hother

/-! ### How deep a tree is -/

namespace Place

/-- How many unions may still follow below a place. -/
def height : Place → Nat
  | union .executionStatus | union .finalExecutionStatus => 5
  | union .txExecutionError => 4
  | actionError => 3
  | union .actionErrorKind => 2
  | union .functionCallError | union .invalidTxError => 1
  | union .accessKeyPermission | union .action | union .compilationError
  | union .invalidAccessKeyError | union .methodResolveError | union .wasmTrap => 0

end Place

/-- The union inside a variant has fewer unions below it than the union of the variant. -/
theorem Nested.height_inner_lt {type : UnionType} (n : Nested type) :
    n.inner.height < (Place.union type).height := by
  cases n <;> decide

namespace Step

variable {here next inner : Place × Json}

/-- Each step goes down to a place with fewer unions below it. -/
theorem height_lt (hstep : Step here next) : next.1.height < here.1.height := by
  cases hstep with
  | payload n payload => exact n.height_inner_lt
  | kind =>
    show Place.height (.union .actionErrorKind) < Place.height .actionError
    decide

/-- Any number of steps go down to a place with no more unions below it. -/
theorem height_le_of_reaches (hreaches : ReflTransGen Step here inner) :
    inner.1.height ≤ here.1.height := by
  induction hreaches with
  | refl => exact Nat.le_refl _
  | tail _ hstep ih => exact Nat.le_of_lt (Nat.lt_of_lt_of_le hstep.height_lt ih)

/-- From every place an innermost one is reached. Each step goes down to a place with fewer unions
below it, so there is an end of it. -/
theorem exists_innermost (here : Place × Json) :
    ∃ inner, ReflTransGen Step here inner ∧ ∀ next, ¬Step inner next := by
  induction hheight : here.1.height using Nat.strong_induction_on generalizing here with
  | _ height ih =>
    by_cases hnext : ∃ next, Step here next
    · obtain ⟨next, hstep⟩ := hnext
      obtain ⟨inner, hreaches, hinnermost⟩ := ih _ (hheight ▸ hstep.height_lt) next rfl
      exact ⟨inner, .head hstep hreaches, hinnermost⟩
    · exact ⟨here, .refl, fun next hstep => hnext ⟨next, hstep⟩⟩

/-- The innermost place is lower than every place that has something below it. -/
theorem height_lt_of_innermost {outer : Place × Json} (hinner : ReflTransGen Step here inner)
    (hinnermost : ∀ next, ¬Step inner next) (houter : ReflTransGen Step here outer)
    (hstep : Step outer next) : inner.1.height < outer.1.height := by
  have hunique : Relator.RightUnique Step := fun _ _ _ => unique
  have hbelow : ReflTransGen Step outer inner := by
    rcases ReflTransGen.total_of_right_unique hunique houter hinner with hbelow | habove
    · exact hbelow
    · rcases habove.cases_head with rfl | ⟨other, hother, -⟩
      · exact .refl
      · exact absurd hother (hinnermost other)
  rcases hbelow.cases_head with rfl | ⟨other, hother, hrest⟩
  · exact absurd hstep (hinnermost next)
  · exact Nat.lt_of_le_of_lt (height_le_of_reaches hrest) hother.height_lt

end Step

/-- A tree fails exactly with what its innermost place refuses by itself. -/
theorem Place.decode_eq_error_iff_innermost (here : Place × Json) {error : CodecError} :
    here.1.decode here.2 = .error error ↔
      ∃ inner, ReflTransGen Step here inner ∧ (∀ next, ¬Step inner next) ∧
        Raises inner error := by
  constructor
  · intro hfails
    obtain ⟨inner, hreaches, hinnermost⟩ := Step.exists_innermost here
    have hinner := (decode_eq_error_iff_of_reaches hreaches).mp hfails
    exact ⟨inner, hreaches, hinnermost, raises_of_innermost hinnermost hinner⟩
  · rintro ⟨inner, hreaches, -, hraises⟩
    exact (decode_eq_error_iff_of_reaches hreaches).mpr hraises.decode_eq_error

/-! ### Unknown variants -/

namespace UnionType

deriving instance DecidableEq for UnionType

/-- The name of a union in its failures. -/
def family (type : UnionType) : String := type.union.registry.family

/-- Two unions with one name are the same. -/
theorem family_injective : Function.Injective family := by
  intro type other h
  cases type <;> cases other <;> revert h <;> decide

/-- The value names a variant by the tag, and the union does not know it: the tag is a text and
not the name of a variant without payload, or it is the name of the one member of an object and
of no variant. -/
def Unknown (type : UnionType) (tag : String) (value : Json) : Prop :=
  value = .string tag ∧ (∀ known : type.Tag, VariantTag.name known = tag →
      (type.union.registry.variant known).shape ≠ .unit) ∨
    ∃ payload, value = .object [(tag, payload)] ∧ ∀ known : type.Tag, VariantTag.name known ≠ tag

end UnionType

/-- A place refuses an unknown variant just when it is the union of that name and does not know the
tag. -/
theorem Raises.unknownVariant_iff {here : Place × Json} {family tag : String} :
    Raises here (.unknownVariant family tag) ↔
      ∃ type, here.1 = .union type ∧ family = type.family ∧ type.Unknown tag here.2 := by
  obtain ⟨place, value⟩ := here
  constructor
  · intro h
    cases place with
    | union type =>
      refine ⟨type, rfl, ?_⟩
      rcases union_iff.mp h with hrefuses | ⟨_, _, _, _, _, _, hrefuses⟩
      · generalize herror : CodecError.unknownVariant family tag = error at hrefuses
        cases hrefuses with
        | notTagged | memberCount => cases herror
        | unknownText unknown => cases herror; exact ⟨rfl, Or.inl ⟨rfl, unknown⟩⟩
        | unknownMember unknown => cases herror; exact ⟨rfl, Or.inr ⟨_, rfl, unknown⟩⟩
      · cases hrefuses
    | actionError => cases h
  · rintro ⟨type, hplace, rfl, hunknown⟩
    obtain rfl : place = .union type := hplace
    rcases hunknown with ⟨hvalue, hknown⟩ | ⟨payload, hvalue, hknown⟩
    · obtain rfl : value = .string tag := hvalue
      exact .union (.unknownText hknown)
    · obtain rfl : value = .object [(tag, payload)] := hvalue
      exact .union (.unknownMember hknown)

/-! ### The whole tree -/

/-- A nested payload is decoded by its own codec and every other payload by a schema, whose
failures become mismatches of the variant. An action error has to be an object, then its index
has to be fine, then it has to have a kind, and last its kind is decoded. So going down a tree
the failure stays the same, and a tree fails exactly with what the innermost place refuses by
itself. What is unknown is the tag at that place to the union there, and no union further out. -/
theorem Place.decode_exact :
    (∀ {type : UnionType} (n : Nested type) (payload : Json),
      type.union.decode (.object [(n.name, payload)]) = (n.inner.decode payload).map n.wrap) ∧
    (∀ (type : UnionType) (tag : type.Tag), (∀ n : Nested type, n.tag ≠ tag) →
      ∃ reading : Reading type.Value, (type.union.registry.variant tag).Reads reading ∧
        ∀ (payload : Json) (error : CodecError),
          type.union.decode (.object [(VariantTag.name tag, payload)]) = .error error ↔
            reading.Refuses (VariantTag.name tag) payload error) ∧
    ((∀ value, (∀ members, value ≠ .object members) →
        ActionError.decode value = .error (.typeMismatch .actionError (.kind value.kind))) ∧
      (∀ members index, ActionError.BadIndex members index →
        ActionError.decode (.object members) =
          .error (.typeMismatch .actionIndex (.kind index.kind))) ∧
      (∀ members index, ActionError.HasIndex members index → members.lookup "kind" = none →
        ActionError.decode (.object members) = .error (.format .missingKind)) ∧
      ∀ members index kind, ActionError.HasIndex members index →
        members.lookup "kind" = some kind → ActionError.decode (.object members) =
          (ActionErrorKind.union.decode kind).map fun kind => ⟨index, kind⟩) ∧
    ∀ here : Place × Json,
      (∀ inner, ReflTransGen Step here inner → ∀ error,
        here.1.decode here.2 = .error error ↔ inner.1.decode inner.2 = .error error) ∧
      (∀ error, here.1.decode here.2 = .error error ↔
        ∃ inner, ReflTransGen Step here inner ∧ (∀ next, ¬Step inner next) ∧
          Raises inner error) ∧
      (∀ family tag, here.1.decode here.2 = .error (.unknownVariant family tag) ↔
        ∃ (type : UnionType) (value : Json), ReflTransGen Step here (.union type, value) ∧
          family = type.family ∧ type.Unknown tag value) ∧
      ∀ family tag, here.1.decode here.2 = .error (.unknownVariant family tag) →
        ∀ (outer : UnionType) (value : Json) (next : Place × Json),
          ReflTransGen Step here (.union outer, value) → Step (.union outer, value) next →
            family ≠ outer.family := by
  refine ⟨fun n payload => n.decode_member payload, ?_, ⟨fun _ => ActionError.decode_notObject,
    fun _ _ => ActionError.decode_badIndex, fun _ _ => ActionError.decode_missingKind,
    fun _ _ _ => ActionError.decode_kind⟩, ?_⟩
  · intro type tag hown
    obtain ⟨reading, hreads⟩ := (type.variant_readsItself_or_nested tag).resolve_right
      fun ⟨n, htag⟩ => hown n htag
    refine ⟨reading, hreads, fun payload error => ?_⟩
    show type.union.registry.decode _ = _ ↔ _
    rw [Registry.decode_member, hreads.decode_eq_error_iff, Variant.name, Registry.variant_tag]
  · intro here
    refine ⟨fun inner hreaches error => decode_eq_error_iff_of_reaches hreaches,
      fun error => Place.decode_eq_error_iff_innermost here, ?_, ?_⟩
    · intro family tag
      constructor
      · intro h
        obtain ⟨⟨place, value⟩, hreaches, -, hraises⟩ :=
          (Place.decode_eq_error_iff_innermost here).mp h
        obtain ⟨type, rfl, hfamily, hunknown⟩ := Raises.unknownVariant_iff.mp hraises
        exact ⟨type, value, hreaches, hfamily, hunknown⟩
      · rintro ⟨type, value, hreaches, hfamily, hunknown⟩
        have hraises : Raises (.union type, value) (.unknownVariant family tag) :=
          Raises.unknownVariant_iff.mpr ⟨type, rfl, hfamily, hunknown⟩
        exact (Place.decode_eq_error_iff_innermost here).mpr
          ⟨_, hreaches, hraises.not_step, hraises⟩
    · rintro family tag h outer value next houter hstep rfl
      obtain ⟨⟨place, inner⟩, hreaches, hinnermost, hraises⟩ :=
        (Place.decode_eq_error_iff_innermost here).mp h
      obtain ⟨type, rfl, hfamily, -⟩ := Raises.unknownVariant_iff.mp hraises
      have hlower := Step.height_lt_of_innermost hreaches hinnermost houter hstep
      rw [UnionType.family_injective hfamily] at hlower
      exact absurd hlower (Nat.lt_irrefl _)

/-- A trap that does not exist, inside the failure of the third action of a transaction, and
action errors that are malformed before their kind is looked at. -/
theorem Place.decode_exact_trap :
    let trap : Json := .object [("FunctionCallError", .object [("WasmTrap", .string "Banana")])]
    let action : List (String × Json) := [("index", .ofUInt64 2), ("kind", trap)]
    let failure : Json := .object [("Failure", .object [("ActionError", .object action)])]
    ExecutionStatus.union.decode failure = .error (.unknownVariant "WasmTrap" "Banana") ∧
      "WasmTrap" ≠ UnionType.family .executionStatus ∧
      ActionError.decode (.object action) =
        (ActionErrorKind.union.decode trap).map (fun kind => ⟨some 2, kind⟩) ∧
      ActionErrorKind.union.decode (.object [("DelegateActionExpired", .string "now")]) =
        .error (.typeMismatch (.noPayload "DelegateActionExpired") (.kind "string")) ∧
      ActionError.decode (.array []) = .error (.typeMismatch .actionError (.kind "array")) ∧
      ActionError.decode (.object [("kind", trap), ("index", .string "2")]) =
        .error (.typeMismatch .actionIndex (.kind "string")) ∧
      ActionError.decode (.object [("index", .null)]) = .error (.format .missingKind) := by
  intro trap action failure
  obtain ⟨-, hitself, ⟨hobject, hindex, hmissing, hkind⟩, htree⟩ := Place.decode_exact
  have hfirst : Step (.union .executionStatus, failure)
      (.union .txExecutionError, .object [("ActionError", .object action)]) :=
    .payload .statusFailure _
  have hreaches : ReflTransGen Step (.union .executionStatus, failure)
      (.union .wasmTrap, .string "Banana") := by
    refine .head hfirst ?_
    refine .head (.payload .actionError (.object action)) ?_
    refine .head (.kind (.word rfl) rfl) ?_
    refine .head (.payload .functionCallError _) ?_
    exact .head (.payload .wasmTrap _) .refl
  have hunknown : UnionType.Unknown .wasmTrap "Banana" (.string "Banana") := by
    refine Or.inl ⟨rfl, fun known hname => ?_⟩
    cases known <;> exact absurd hname (by decide)
  have hfailure : ExecutionStatus.union.decode failure =
      .error (.unknownVariant "WasmTrap" "Banana") :=
    ((htree (.union .executionStatus, failure)).2.2.1 "WasmTrap" "Banana").mpr
      ⟨.wasmTrap, _, hreaches, rfl, hunknown⟩
  have houter : "WasmTrap" ≠ UnionType.family .executionStatus :=
    (htree (.union .executionStatus, failure)).2.2.2 _ _ hfailure .executionStatus _ _ .refl hfirst
  have hbad : ActionError.BadIndex [("kind", trap), ("index", .string "2")] (.string "2") :=
    ⟨rfl, by simp, fun word => by simp [Json.ofUInt64]⟩
  refine ⟨hfailure, houter, hkind _ _ _ (.word rfl) rfl, ?_, hobject _ (by simp),
    hindex _ _ hbad, hmissing _ _ (.null rfl) rfl⟩
  have hown : ∀ n : Nested .actionErrorKind,
      n.tag ≠ ActionErrorKind.Tag.delegateActionExpired := by
    intro n htag
    cases n
    cases htag
  obtain ⟨reading, hreads, hfails⟩ := hitself .actionErrorKind _ hown
  cases reading with
  | unit value => exact (hfails _ _).mpr (.noPayload (by simp))
  | unwrapped | structured => cases hreads.1

end LedgerWire
