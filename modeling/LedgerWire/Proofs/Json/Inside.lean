import LedgerWire.Proofs.Json.Unordered
import LedgerWire.Proofs.Union.Payload

/-!
# Values inside values

A reader hands parts of a value to other readers: the members of an object to the schemas of the
fields, the payload of a variant to its decoder, and so on down. What stands at such a place can be
replaced. If the reader of the place does not tell the difference, then neither does the reader of
the whole; and if the reader of the place refuses, then so does the reader of the whole. Both are
shown for one step and carried down by induction.
-/

namespace LedgerWire

open Json (Distinct)

variable {ε δ γ α β σ τ : Type}

/-- A step that fails. -/
def Refused (x : Except ε α) : Prop := ∃ error, x = .error error

/-- A failure stays one when results are mapped. -/
theorem Refused.map {x : Except ε α} (h : Refused x) (f : α → β) : Refused (x.map f) := by
  obtain ⟨error, rfl⟩ := h
  exact ⟨error, rfl⟩

/-- A failure stays one when failures are mapped. -/
theorem Refused.mapError {x : Except ε α} (h : Refused x) (f : ε → δ) : Refused (x.mapError f) := by
  obtain ⟨error, rfl⟩ := h
  exact ⟨f error, rfl⟩

/-- A chain of two steps fails when the first does. -/
theorem Refused.first {x : Except ε α} (h : Refused x) (f : α → Except ε β) :
    Refused (x >>= f) := by
  obtain ⟨error, rfl⟩ := h
  exact ⟨error, rfl⟩

/-- A chain of two steps fails when the second does, whatever the first gives. -/
theorem Refused.second {x : Except ε α} {f : α → Except ε β} (h : ∀ a, Refused (f a)) :
    Refused (x >>= f) := by
  cases x with
  | ok a => exact h a
  | error error => exact ⟨error, rfl⟩

/-- Two failures have the same outcome. -/
theorem Refused.sameOutcome {same : α → α → Prop} {x y : Except ε α} (hx : Refused x)
    (hy : Refused y) : SameOutcome same x y := by
  obtain ⟨e, rfl⟩ := hx
  obtain ⟨f, rfl⟩ := hy
  exact .error e f

/-! ### Places -/

/-- A declared field with its name. -/
inductive Fields.Has : {τ α : Type} → Fields τ → String → Schema α → Prop where
  | first {α τ : Type} (name : String) (schema : Schema α) (missing : Option α) (rest : Fields τ) :
      Has (.field name schema missing rest) name schema
  | next {α β τ : Type} {own : String} {schema : Schema β} {rest : Fields τ} (name : String)
      (other : Schema α) (missing : Option α) (h : rest.Has own schema) :
      Has (.field name other missing rest) own schema

/-- A declared field with its position. -/
inductive Fields.HasAt : {τ α : Type} → Fields τ → Nat → Schema α → Prop where
  | first {α τ : Type} (name : String) (schema : Schema α) (missing : Option α) (rest : Fields τ) :
      HasAt (.field name schema missing rest) 0 schema
  | next {α β τ : Type} {position : Nat} {schema : Schema β} {rest : Fields τ} (name : String)
      (other : Schema α) (missing : Option α) (h : rest.HasAt position schema) :
      HasAt (.field name other missing rest) (position + 1) schema

namespace Json

/-- One step into a value: what the outer reader reads with a given part in its place, it hands
that part to the inner reader. -/
inductive ReadsPart : {ε α δ β : Type} → (outer : Json → Except ε α) →
    (inner : Json → Except δ β) → (put : Json → Json) → Prop where
  /-- The member of a field in an object that is read as a record. -/
  | member {ρ τ α : Type} {name own : String} {fields : Fields τ} {row : Row ρ τ} {strict : Bool}
      {schema : Schema α} {front back : List (String × Json)} (hnames : fields.names.Nodup)
      (hfield : fields.Has own schema) (hdistinct : Distinct (front ++ (own, .null) :: back)) :
      ReadsPart (Schema.record name fields row strict).read schema.read fun part =>
        .object (front ++ (own, part) :: back)
  /-- The item of a field in a list that is read as a record. -/
  | position {ρ τ α : Type} {name : String} {fields : Fields τ} {row : Row ρ τ} {strict : Bool}
      {schema : Schema α} {front back : List Json} (hfield : fields.HasAt front.length schema) :
      ReadsPart (Schema.record name fields row strict).read schema.read fun part =>
        .array (front ++ part :: back)
  | item {α : Type} {schema : Schema α} (front back : List Json) :
      ReadsPart schema.list.read schema.read fun part => .array (front ++ part :: back)
  | present {α : Type} (schema : Schema α) : ReadsPart schema.optional.read schema.read id
  | union {τ υ : Type} [DecidableEq τ] [VariantTag τ] (union : Tagged τ υ) :
      ReadsPart union.schema.read union.decode id
  /-- The payload of a variant. -/
  | payload {τ υ : Type} [DecidableEq τ] [VariantTag τ] (union : Tagged τ υ) (tag : τ) :
      ReadsPart union.decode (union.registry.variant tag).decode fun part =>
        .object [(VariantTag.name tag, part)]
  | unwrapped {τ υ α : Type} [VariantTag τ] (tag : τ) (schema : Schema α) (make : α → υ) :
      ReadsPart (Variant.unwrapped tag schema make).decode schema.read id
  | structured {τ υ α : Type} [VariantTag τ] (tag : τ) (schema : Schema α) (make : α → υ) :
      ReadsPart (Variant.structured tag schema make).decode schema.read id
  | nested {τ υ α : Type} (tag : τ) (decode : Json → Except CodecError α) (make : α → υ) :
      ReadsPart (Variant.nested tag decode make).decode decode id
  /-- The kind in an action error that is decoded inside a union. -/
  | kind {front back : List (String × Json)}
      (hdistinct : Distinct (front ++ ("kind", .null) :: back)) :
      ReadsPart ActionError.decode ActionErrorKind.union.decode fun part =>
        .object (front ++ ("kind", part) :: back)

/-- Any number of steps into a value. -/
inductive ReadsInside : {ε α δ β : Type} → (outer : Json → Except ε α) →
    (inner : Json → Except δ β) → (put : Json → Json) → Prop where
  | here {ε α : Type} (read : Json → Except ε α) : ReadsInside read read id
  | deeper {ε α δ β γ σ : Type} {outer : Json → Except ε α} {middle : Json → Except δ β}
      {inner : Json → Except γ σ} {put putInside : Json → Json} (hpart : ReadsPart outer middle put)
      (hinside : ReadsInside middle inner putInside) :
      ReadsInside outer inner fun part => put (putInside part)

/-- Steps into a value and further steps from there are steps into the value. -/
theorem ReadsInside.trans {outer : Json → Except ε α} {middle : Json → Except δ β}
    {inner : Json → Except γ σ} {put putInside : Json → Json} (h : ReadsInside outer middle put)
    (hinside : ReadsInside middle inner putInside) :
    ReadsInside outer inner fun part => put (putInside part) := by
  induction h with
  | here read => exact hinside
  | deeper hpart _ ih => exact .deeper hpart (ih hinside)

/-- What a reader can tell of a place inside a value it tells through the reader of the place,
except for the kind of what stands there. -/
structure Depends (outer : Json → Except ε α) (inner : Json → Except δ β) (put : Json → Json) :
    Prop where
  kind {part other : Json} (hkind : part.kind = other.kind) : (put part).kind = (put other).kind
  ne_null {part : Json} (hpart : part ≠ .null) : put part ≠ .null
  agree {part other : Json} (hkind : part.kind = other.kind)
    (h : SameOutcome Eq (inner part) (inner other)) :
    SameOutcome Eq (outer (put part)) (outer (put other))
  refused {part : Json} (hpart : part ≠ .null) (h : Refused (inner part)) :
    Refused (outer (put part))

namespace Depends

/-- A reader depends on a whole value through itself. -/
theorem refl (read : Json → Except ε α) : Depends read read id where
  kind hkind := hkind
  ne_null hpart := hpart
  agree _ h := h
  refused _ h := h

/-- A reader depends on a part of a part through the reader of the inner part. -/
theorem trans {outer : Json → Except ε α} {middle : Json → Except δ β} {inner : Json → Except γ σ}
    {put putInside : Json → Json} (houter : Depends outer middle put)
    (hinner : Depends middle inner putInside) :
    Depends outer inner fun part => put (putInside part) where
  kind hkind := houter.kind (hinner.kind hkind)
  ne_null hpart := houter.ne_null (hinner.ne_null hpart)
  agree hkind h := houter.agree (hinner.kind hkind) (hinner.agree hkind h)
  refused hpart h := houter.refused (hinner.ne_null hpart) (hinner.refused hpart h)

end Depends

/-! ### Members and items in place -/

section

variable {front back : List (String × Json)} {own name : String} {part other : Json}

/-- Whether names are distinct does not depend on the values. -/
theorem Distinct.put (h : Distinct (front ++ (own, other) :: back)) (part : Json) :
    Distinct (front ++ (own, part) :: back) := by
  simpa only [Distinct, List.map_append, List.map_cons] using h

/-- Of members with different names, each is found under its name. -/
theorem Distinct.lookup_self (h : Distinct (front ++ (own, part) :: back)) :
    (front ++ (own, part) :: back).lookup own = some part :=
  h.lookup_eq_some_iff.mpr (by simp)

/-- A member of another name plays no part in looking up a name. -/
theorem lookup_other (hname : name ≠ own) :
    (front ++ (own, part) :: back).lookup name = (front ++ back).lookup name := by
  rw [List.lookup_append, List.lookup_append, List.lookup_cons, beq_false_of_ne hname]

end

/-- Nothing but null is of its kind. -/
theorem kind_eq_null_iff {value : Json} : value.kind = "null" ↔ value = .null := by
  cases value <;> simp [kind]

/-- Nothing but an object is of its kind. -/
theorem kind_eq_object_iff {value : Json} :
    value.kind = "object" ↔ ∃ members, value = .object members := by
  cases value <;> simp [kind]

end Json

namespace Fields

variable {fields : Fields τ} {schema : Schema α} {own : String} {part other : Json}
  {front back : List (String × Json)} {members members' : List (String × Json)}

/-- A declared field is among the names. -/
theorem Has.mem_names (h : fields.Has own schema) : own ∈ fields.names := by
  induction h with
  | first name schema missing rest => exact List.mem_cons_self
  | next name other missing _ ih => exact List.mem_cons_of_mem name ih

/-- Filling looks at nothing but the members of the fields. -/
theorem fill_congr (h : ∀ name ∈ fields.names, members.lookup name = members'.lookup name) :
    fields.fill members = fields.fill members' := by
  induction fields with
  | done => rfl
  | field name schema missing rest ih =>
    rw [fill_field, fill_field, h name List.mem_cons_self,
      ih fun other hother => h other (List.mem_cons_of_mem name hother)]

/-- Filling a row tells of a member what the schema of its field tells. -/
theorem fill_agree (hnames : fields.names.Nodup) (hfield : fields.Has own schema)
    (hdistinct : Distinct (front ++ (own, part) :: back))
    (h : SameOutcome Eq (schema.read part) (schema.read other)) :
    SameOutcome Eq (fields.fill (front ++ (own, part) :: back))
      (fields.fill (front ++ (own, other) :: back)) := by
  have hother {name : String} (hne : name ≠ own) :
      (front ++ (own, part) :: back).lookup name = (front ++ (own, other) :: back).lookup name := by
    rw [Json.lookup_other hne, Json.lookup_other hne]
  induction hfield with
  | first name schema missing rest =>
    have hrest : rest.fill (front ++ (name, part) :: back) =
        rest.fill (front ++ (name, other) :: back) :=
      fill_congr fun other hmem => hother fun heq => (List.nodup_cons.mp hnames).1 (heq ▸ hmem)
    rw [fill_field, fill_field, hdistinct.lookup_self, (hdistinct.put other).lookup_self, hrest]
    have hread : SameOutcome Eq (readMember name schema missing (some part))
        (readMember name schema missing (some other)) := h
    refine hread.bind fun heq => ?_
    rw [heq]
    exact .refl (fun _ => rfl) _
  | @next _ _ _ own _ rest name first missing hrest ih =>
    have hne : name ≠ own := by
      rintro rfl
      exact (List.nodup_cons.mp hnames).1 hrest.mem_names
    rw [fill_field, fill_field, hother hne]
    refine SameOutcome.bind (.refl (fun _ => rfl) _) fun heq => ?_
    rw [heq]
    exact (ih (List.nodup_cons.mp hnames).2 hdistinct h hother).bind fun hrow => by
      rw [hrow]
      exact .ok rfl

/-- Fields are not filled in when the member of one of them is refused. -/
theorem fill_refused (hfield : fields.Has own schema) (hmember : members.lookup own = some part)
    (h : Refused (schema.read part)) : Refused (fields.fill members) := by
  induction hfield with
  | first name schema missing rest =>
    rw [fill_field, hmember]
    exact Refused.first h _
  | next name other missing _ ih =>
    rw [fill_field]
    exact .second fun value => (ih hmember h).first _

/-- Filling by position tells of an item what the schema of its field tells. -/
theorem fillFrom_agree {start : Nat} (hfield : fields.HasAt start schema) {expected : String}
    {position : Nat} {front back : List Json} (hstart : front.length = start)
    (h : SameOutcome Eq (schema.read part) (schema.read other)) :
    SameOutcome Eq (fields.fillFrom expected position (front ++ part :: back))
      (fields.fillFrom expected position (front ++ other :: back)) := by
  induction hfield generalizing front position with
  | first name schema missing rest =>
    rw [List.length_eq_zero_iff.mp hstart, fillFrom_field, fillFrom_field]
    have hread : SameOutcome Eq (readItem position expected schema missing (part :: back))
        (readItem position expected schema missing (other :: back)) :=
      h.map fun heq => by rw [heq]
    refine hread.bind fun heq => ?_
    rw [heq]
    exact .refl (fun _ => rfl) _
  | next name first missing _ ih =>
    obtain ⟨item, front, rfl⟩ := List.exists_cons_of_length_eq_add_one hstart
    rw [fillFrom_field, fillFrom_field, List.cons_append, List.cons_append, readItem, readItem]
    cases first.read item with
    | error error => exact .error _ _
    | ok value =>
      exact (ih (Nat.succ.inj hstart) h).bind fun heq => by
        rw [heq]
        exact .ok rfl

/-- Fields are not filled in when the item at the position of one of them is refused. -/
theorem fillFrom_refused {start : Nat} (hfield : fields.HasAt start schema) {expected : String}
    {position : Nat} {front back : List Json} (hstart : front.length = start)
    (h : Refused (schema.read part)) :
    Refused (fields.fillFrom expected position (front ++ part :: back)) := by
  induction hfield generalizing front position with
  | first name schema missing rest =>
    rw [List.length_eq_zero_iff.mp hstart, fillFrom_field]
    exact (h.map _).first _
  | next name first missing _ ih =>
    obtain ⟨item, front, rfl⟩ := List.exists_cons_of_length_eq_add_one hstart
    rw [fillFrom_field, List.cons_append, readItem]
    cases first.read item with
    | error error => exact ⟨error, rfl⟩
    | ok value => exact (ih (Nat.succ.inj hstart) h).first _

end Fields

/-- An optional value that is not null is read as the value. -/
theorem Schema.optional_read_of_ne_null {schema : Schema α} {value : Json} (h : value ≠ .null) :
    schema.optional.read value = (schema.read value).map some := by
  cases value with
  | null => exact absurd rfl h
  | _ => rfl

namespace Variant

variable {υ : Type} [VariantTag τ] {tag : τ} {schema : Schema α} {make : α → υ}

/-- A variant that is its one field is decoded as the field, whose failures become mismatches of the
payload. -/
theorem unwrapped_decode (payload : Json) : (unwrapped tag schema make).decode payload =
    ((schema.read payload).mapError fun error =>
      .typeMismatch (.payload (VariantTag.name tag)) (.unreadable error)).map make := by
  rw [← decodePayload_eq_mapError]
  rfl

/-- A variant with named fields refuses what is no object. -/
theorem structured_refused {payload : Json} (h : payload.kind ≠ "object") :
    Refused ((structured tag schema make).decode payload) := by
  cases payload with
  | object members => exact absurd rfl h
  | _ => exact ⟨_, rfl⟩

end Variant

/-! ### One step and many -/

namespace Json

namespace Depends

/-- A record depends on a member through the reader of its field. The names stay the same whatever
stands there, so a strict record admits both objects or neither. -/
theorem member {ρ τ α : Type} {name own : String} {fields : Fields τ} {row : Row ρ τ}
    {strict : Bool} {schema : Schema α} {front back : List (String × Json)}
    (hnames : fields.names.Nodup) (hfield : fields.Has own schema)
    (hdistinct : Distinct (front ++ (own, .null) :: back)) :
    Depends (Schema.record name fields row strict).read schema.read fun part =>
      .object (front ++ (own, part) :: back) where
  kind _ := rfl
  ne_null _ heq := by cases heq
  agree {part other} _ h := by
    have hsame : (front ++ (own, part) :: back).map Prod.fst =
        (front ++ (own, other) :: back).map Prod.fst := by simp
    by_cases hadmits : fields.Admits strict (front ++ (own, part) :: back)
    · have hfill := Fields.fill_agree hnames hfield (hdistinct.put part) h
      have hadmits' : fields.Admits strict (front ++ (own, other) :: back) := by
        rw [Fields.Admits, ← hsame]
        exact hadmits
      exact SameOutcome.of_eq (hfill.map fun heq => congrArg row.ofRow heq)
        (Schema.record_read_object (hdistinct.put part) hadmits)
        (Schema.record_read_object (hdistinct.put other) hadmits')
    · have hadmits' : ¬fields.Admits strict (front ++ (own, other) :: back) := by
        rw [Fields.Admits, ← hsame]
        exact hadmits
      exact Refused.sameOutcome (Schema.record_read_undeclared hadmits)
        (Schema.record_read_undeclared hadmits')
  refused {part} _ h := by
    have hfill := Fields.fill_refused hfield (hdistinct.put part).lookup_self h
    exact .second fun _ => hfill.first _

/-- A record depends on an item through the reader of the field at its position. -/
theorem position {ρ τ α : Type} {name : String} {fields : Fields τ} {row : Row ρ τ} {strict : Bool}
    {schema : Schema α} {front back : List Json} (hfield : fields.HasAt front.length schema) :
    Depends (Schema.record name fields row strict).read schema.read fun part =>
      .array (front ++ part :: back) where
  kind _ := rfl
  ne_null _ heq := by cases heq
  agree {part other} _ h := by
    refine (Fields.fillFrom_agree hfield rfl h).bind fun {filled filled'} heq => ?_
    rw [heq]
    obtain ⟨filled, rest⟩ := filled'
    cases rest with
    | nil => exact .ok rfl
    | cons => exact .error _ _
  refused {part} _ h := (Fields.fillFrom_refused hfield rfl h).first _

/-- A list depends on an item through the reader of items. -/
theorem item {α : Type} {schema : Schema α} (front back : List Json) :
    Depends schema.list.read schema.read fun part => .array (front ++ part :: back) where
  kind _ := rfl
  ne_null _ heq := by cases heq
  agree {part other} _ h := by
    show SameOutcome Eq (Schema.readItems schema (front ++ part :: back))
      (Schema.readItems schema (front ++ other :: back))
    induction front with
    | nil => exact h.bind fun heq => by rw [heq]; exact .refl (fun _ => rfl) _
    | cons first front ih =>
      refine SameOutcome.bind (.refl (fun _ => rfl) (schema.read first)) fun heq => ?_
      rw [heq]
      exact ih.bind fun hrest => by rw [hrest]; exact .ok rfl
  refused {part} _ h := by
    show Refused (Schema.readItems schema (front ++ part :: back))
    induction front with
    | nil => exact h.first _
    | cons first front ih => exact .second fun _ => ih.first _

/-- An optional value depends on a value through its reader. -/
theorem present {α : Type} (schema : Schema α) :
    Depends schema.optional.read schema.read id where
  kind hkind := hkind
  ne_null hpart := hpart
  agree {part other} hkind h := by
    by_cases hnull : part = .null
    · subst hnull
      rw [kind_eq_null_iff.mp hkind.symm]
      exact .refl (fun _ => rfl) _
    · have hother : other ≠ .null := by
        rintro rfl
        exact hnull (kind_eq_null_iff.mp hkind)
      rw [id, id, Schema.optional_read_of_ne_null hnull, Schema.optional_read_of_ne_null hother]
      exact h.map (congrArg some)
  refused {part} hpart h := by
    rw [id, Schema.optional_read_of_ne_null hpart]
    exact h.map _

/-- The schema of a union depends on a value through the decoder of the union. -/
theorem union {τ υ : Type} [DecidableEq τ] [VariantTag τ] (union : Tagged τ υ) :
    Depends union.schema.read union.decode id where
  kind hkind := hkind
  ne_null hpart := hpart
  agree _ h := by
    rw [id, id, Tagged.schema_read_eq_mapError, Tagged.schema_read_eq_mapError]
    exact h.mapError _
  refused _ h := by
    rw [id, Tagged.schema_read_eq_mapError]
    exact h.mapError _

/-- A union depends on a payload through the decoder of the variant. -/
theorem payload {τ υ : Type} [DecidableEq τ] [VariantTag τ] (union : Tagged τ υ) (tag : τ) :
    Depends union.decode (union.registry.variant tag).decode fun part =>
      .object [(VariantTag.name tag, part)] where
  kind _ := rfl
  ne_null _ heq := by cases heq
  agree _ h := by
    rw [Tagged.decode, Tagged.decode, Registry.decode_member, Registry.decode_member]
    exact h
  refused _ h := by
    rw [Tagged.decode, Registry.decode_member]
    exact h

/-- A variant that is its one field depends on the payload through the reader of the field. -/
theorem unwrapped {τ υ α : Type} [VariantTag τ] (tag : τ) (schema : Schema α) (make : α → υ) :
    Depends (Variant.unwrapped tag schema make).decode schema.read id where
  kind hkind := hkind
  ne_null hpart := hpart
  agree _ h := by
    rw [id, id, Variant.unwrapped_decode, Variant.unwrapped_decode]
    exact (h.mapError _).map (congrArg make)
  refused _ h := by
    rw [id, Variant.unwrapped_decode]
    exact (h.mapError _).map _

/-- A variant with named fields depends on the payload through the reader of the fields. A payload
of another kind is refused before it is read. -/
theorem structured {τ υ α : Type} [VariantTag τ] (tag : τ) (schema : Schema α) (make : α → υ) :
    Depends (Variant.structured tag schema make).decode schema.read id where
  kind hkind := hkind
  ne_null hpart := hpart
  agree {part other} hkind h := by
    by_cases hobject : part.kind = "object"
    · obtain ⟨members, rfl⟩ := kind_eq_object_iff.mp hobject
      obtain ⟨members', rfl⟩ := kind_eq_object_iff.mp (hkind ▸ hobject)
      exact (unwrapped tag schema make).agree hkind h
    · exact (Variant.structured_refused hobject).sameOutcome
        (Variant.structured_refused (hkind ▸ hobject))
  refused {part} hpart h := by
    by_cases hobject : part.kind = "object"
    · obtain ⟨members, rfl⟩ := kind_eq_object_iff.mp hobject
      exact (unwrapped tag schema make).refused hpart h
    · exact Variant.structured_refused hobject

/-- A nested variant depends on the payload through the decoder of the inner union. -/
theorem nested {τ υ α : Type} (tag : τ) (decode : Json → Except CodecError α) (make : α → υ) :
    Depends (Variant.nested tag decode make).decode decode id where
  kind hkind := hkind
  ne_null hpart := hpart
  agree _ h := h.map (congrArg make)
  refused _ h := h.map make

/-- An action error depends on its kind through the decoder of the kinds. -/
theorem actionKind {front back : List (String × Json)}
    (hdistinct : Distinct (front ++ ("kind", .null) :: back)) :
    Depends ActionError.decode ActionErrorKind.union.decode fun part =>
      .object (front ++ ("kind", part) :: back) where
  kind _ := rfl
  ne_null _ heq := by cases heq
  agree {part other} _ h := by
    have hindex : "index" ≠ "kind" := by decide
    rw [ActionError.decode_object, ActionError.decode_object, lookup_other hindex,
      lookup_other hindex, (hdistinct.put part).lookup_self, (hdistinct.put other).lookup_self]
    refine SameOutcome.bind (.refl (fun _ => rfl) _) fun heq => ?_
    rw [heq]
    exact h.bind fun hkind => by rw [hkind]; exact .ok rfl
  refused {part} _ h := by
    rw [ActionError.decode_object, (hdistinct.put part).lookup_self]
    exact .second fun _ => h.first _

end Depends

/-- A reader depends on each part that it reads through the reader of the part. -/
theorem ReadsPart.depends {outer : Json → Except ε α} {inner : Json → Except δ β}
    {put : Json → Json} (h : ReadsPart outer inner put) : Depends outer inner put := by
  cases h with
  | member hnames hfield hdistinct => exact .member hnames hfield hdistinct
  | position hfield => exact .position hfield
  | item front back => exact .item front back
  | present schema => exact .present schema
  | union union => exact .union union
  | payload union tag => exact .payload union tag
  | unwrapped tag schema make => exact .unwrapped tag schema make
  | structured tag schema make => exact .structured tag schema make
  | nested tag _ make => exact .nested tag inner make
  | kind hdistinct => exact .actionKind hdistinct

/-- A reader depends on each place inside a value through the reader of the place. -/
theorem ReadsInside.depends {outer : Json → Except ε α} {inner : Json → Except δ β}
    {put : Json → Json} (h : ReadsInside outer inner put) : Depends outer inner put := by
  induction h with
  | here read => exact .refl read
  | deeper hpart _ ih => exact hpart.depends.trans ih

end Json

end LedgerWire
