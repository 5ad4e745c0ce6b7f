import LedgerWire.Proofs.Json.Reordered
import LedgerWire.Proofs.Json.Schema

/-!
# Schemas that go by name

Members are checked in the order of the text and looked up by name. The order can change which
fault is found, but not whether there is one: in an object whose names are distinct, a member that
is declared is the one that its field looks up. So records go by name when their fields do, and
unions when their variants do, since an object with more than one member is no union in any order.
-/

namespace LedgerWire

open Json (ByName Distinct Reordered)

variable {α ε ρ τ : Type} {same : α → α → Prop}

/-! ### Values without members -/

namespace Schema

/-- A reader that refuses every list and every object has no members to go by. -/
theorem byName_of_scalar {read : Json → Except ε α}
    (harray : ∀ items, ∃ e, read (.array items) = .error e)
    (hobject : ∀ members, ∃ e, read (.object members) = .error e) : ByName Eq read := by
  intro value value' h
  cases h with
  | array hitems =>
    obtain ⟨e, he⟩ := harray _
    obtain ⟨e', he'⟩ := harray _
    rw [he, he']
    exact .error e e'
  | object hdistinct horder hmembers =>
    obtain ⟨e, he⟩ := hobject _
    obtain ⟨e', he'⟩ := hobject _
    rw [he, he']
    exact .error e e'
  | _ => exact .refl (fun _ => rfl) _

/-- A value that is kept verbatim is the same up to the order of members. -/
theorem json_byName : ByName Reordered json.read := fun _ _ h => .ok h

/-- A text is read by name, since it has no members. -/
theorem text_byName : ByName Eq text.read :=
  byName_of_scalar (fun _ => ⟨_, rfl⟩) fun _ => ⟨_, rfl⟩

/-- A word is read by name, since it has no members. -/
theorem uint64_byName : ByName Eq uint64.read :=
  byName_of_scalar (fun _ => ⟨_, rfl⟩) fun _ => ⟨_, rfl⟩

/-- An amount is read by name, since it has no members. -/
theorem amount_byName : ByName Eq amount.read :=
  byName_of_scalar (fun _ => ⟨_, rfl⟩) fun _ => ⟨_, rfl⟩

/-- Bytes in base64 are read by name, since their text has no members. -/
theorem base64_byName : ByName Eq base64.read :=
  byName_of_scalar (fun _ => ⟨_, rfl⟩) fun _ => ⟨_, rfl⟩

/-- What is parsed from a text is read by name, since the text has no members. -/
theorem ofText_byName {parse : String → Except ε α} {refusal : ε → String} {write : α → String}
    {shown : α → Shown} : ByName Eq (ofText parse refusal write shown).read :=
  byName_of_scalar (fun _ => ⟨_, rfl⟩) fun _ => ⟨_, rfl⟩

/-! ### Optional values and lists -/

/-- An optional value is read by name if the value is. -/
theorem optional_byName {schema : Schema α} (h : ByName same schema.read) :
    ByName (Option.Rel same) schema.optional.read := by
  intro value value' hvalue
  cases hvalue with
  | null => exact .ok .none
  | bool value => exact (h (.bool value)).map .some
  | number value => exact (h (.number value)).map .some
  | string value => exact (h (.string value)).map .some
  | array hitems => exact (h (.array hitems)).map .some
  | object hdistinct horder hmembers => exact (h (.object hdistinct horder hmembers)).map .some

/-- A list is read by name if its items are. -/
theorem list_byName {schema : Schema α} (h : ByName same schema.read) :
    ByName (List.Forall₂ same) schema.list.read := by
  have hread : ∀ {items items'}, List.Forall₂ Reordered items items' →
      SameOutcome (List.Forall₂ same) (readItems schema items) (readItems schema items') := by
    intro items items' hitems
    induction hitems with
    | nil => exact .ok .nil
    | cons hitem _ ih =>
      exact (h hitem).bind fun hvalue => ih.bind fun hrest => .ok (.cons hvalue hrest)
  intro value value' hvalue
  cases hvalue with
  | array hitems => exact hread hitems
  | _ => exact .error _ _

end Schema

/-! ### Records -/

namespace Fields

/-- Fields whose readers go by name, each up to a relation of its own. -/
inductive ReadByName : {τ : Type} → Fields τ → (τ → τ → Prop) → Prop where
  | done : ReadByName .done fun _ _ => True
  | field {α τ : Type} {name : String} {schema : Schema α} {missing : Option α} {rest : Fields τ}
      {same : α → α → Prop} {sameRest : τ → τ → Prop} (hschema : ByName same schema.read)
      (hmissing : ∀ value ∈ missing, same value value) (hrest : rest.ReadByName sameRest) :
      ReadByName (.field name schema missing rest) fun row row' =>
        same row.1 row'.1 ∧ sameRest row.2 row'.2

/-- The value of a field from its member, or what stands in for a missing one. -/
def readMember (name : String) (schema : Schema α) (missing : Option α) :
    Option Json → Except Json.ReadError α
  | some value => schema.read value
  | none => missing.elim (.error (.missingField name)) .ok

/-- The value of a field from the next item, or what stands in for a missing one, and the items
left over. -/
def readItem (position : Nat) (expected : String) (schema : Schema α) (missing : Option α) :
    List Json → Except Json.ReadError (α × List Json)
  | item :: items => (schema.read item).map fun value => (value, items)
  | [] => missing.elim (.error (.invalidLength position expected)) fun value => .ok (value, [])

section

variable {name : String} {schema : Schema α} {missing : Option α} {rest : Fields τ}

/-- Filling in fields from an object begins with the member of the first field. -/
theorem fill_field (members : List (String × Json)) :
    (Fields.field name schema missing rest).fill members =
      readMember name schema missing (members.lookup name) >>= fun value =>
        rest.fill members >>= fun row => .ok (value, row) := by
  simp only [fill]
  cases members.lookup name with
  | some value => rfl
  | none => cases missing <;> rfl

/-- A row that is filled has a first value that is read from its member, and the rest filled. -/
theorem readMember_of_fill {members : List (String × Json)} {filled : α × τ}
    (h : (Fields.field name schema missing rest).fill members = .ok filled) :
    readMember name schema missing (members.lookup name) = .ok filled.1 ∧
      rest.fill members = .ok filled.2 := by
  rw [fill_field] at h
  obtain ⟨first, hfirst, hrest⟩ := Except.bind_eq_ok_iff.mp h
  obtain ⟨others, hothers, hfilled⟩ := Except.bind_eq_ok_iff.mp hrest
  cases hfilled
  exact ⟨hfirst, hothers⟩

/-- Filling in fields from a list begins with the item of the first field. -/
theorem fillFrom_field (expected : String) (position : Nat) (items : List Json) :
    (Fields.field name schema missing rest).fillFrom expected position items =
      readItem position expected schema missing items >>= fun front =>
        rest.fillFrom expected (position + 1) front.2 >>= fun filled =>
          .ok ((front.1, filled.1), filled.2) := by
  simp only [fillFrom]
  cases items with
  | cons item items => rfl
  | nil => cases missing <;> rfl

/-- A row that is filled by position has a first value that is read from an item, and the rest
filled from what is left. -/
theorem readItem_of_fillFrom {expected : String} {position : Nat} {items left : List Json}
    {filled : α × τ}
    (h : (Fields.field name schema missing rest).fillFrom expected position items =
      .ok (filled, left)) :
    ∃ others, readItem position expected schema missing items = .ok (filled.1, others) ∧
      rest.fillFrom expected (position + 1) others = .ok (filled.2, left) := by
  rw [fillFrom_field] at h
  obtain ⟨⟨first, others⟩, hfirst, hrest⟩ := Except.bind_eq_ok_iff.mp h
  obtain ⟨row, hrow, heq⟩ := Except.bind_eq_ok_iff.mp hrest
  cases heq
  exact ⟨others, hfirst, hrow⟩

/-- A value that has to be there is read from its member. -/
theorem exists_read_of_readMember {member : Option Json} {value : α}
    (h : readMember name schema none member = .ok value) :
    ∃ json, schema.read json = .ok value := by
  cases member with
  | none => cases h
  | some json => exact ⟨json, h⟩

/-- A value that has to be there is read from its item. -/
theorem exists_read_of_readItem {expected : String} {position : Nat} {items others : List Json}
    {value : α} (h : readItem position expected schema none items = .ok (value, others)) :
    ∃ json, schema.read json = .ok value := by
  cases items with
  | nil => cases h
  | cons json items =>
    obtain ⟨read, hread, heq⟩ := Except.map_eq_ok_iff.mp h
    cases heq
    exact ⟨json, hread⟩

end

variable {fields : Fields τ} {sameRow : τ → τ → Prop} {members members' : List (String × Json)}

/-- Fields that are read by name are filled in alike from members that are found alike. -/
theorem ReadByName.fill (h : fields.ReadByName sameRow)
    (hlookup : ∀ name, Option.Rel Reordered (members.lookup name) (members'.lookup name)) :
    SameOutcome sameRow (fields.fill members) (fields.fill members') := by
  induction h with
  | done => exact .ok trivial
  | @field α τ name schema missing rest same sameRest hschema hmissing _ ih =>
    rw [fill_field, fill_field]
    have hmember : ∀ {member member'}, Option.Rel Reordered member member' →
        SameOutcome same (readMember name schema missing member)
          (readMember name schema missing member') := by
      intro member member' hrel
      cases hrel with
      | some hvalue => exact hschema hvalue
      | none =>
        cases missing with
        | none => exact .error _ _
        | some value => exact .ok (hmissing value rfl)
    exact (hmember (hlookup name)).bind fun hvalue => ih.bind fun hrow => .ok ⟨hvalue, hrow⟩

/-- Fields that are read by name are filled in alike from items that are alike. -/
theorem ReadByName.fillFrom (h : fields.ReadByName sameRow) (expected : String) (position : Nat)
    {items items' : List Json} (hitems : List.Forall₂ Reordered items items') :
    SameOutcome (fun filled filled' => sameRow filled.1 filled'.1 ∧
        List.Forall₂ Reordered filled.2 filled'.2)
      (fields.fillFrom expected position items) (fields.fillFrom expected position items') := by
  induction h generalizing position items items' with
  | done => exact .ok ⟨trivial, hitems⟩
  | @field α τ name schema missing rest same sameRest hschema hmissing _ ih =>
    rw [fillFrom_field, fillFrom_field]
    have hitem : SameOutcome (fun front front' => same front.1 front'.1 ∧
        List.Forall₂ Reordered front.2 front'.2)
        (readItem position expected schema missing items)
        (readItem position expected schema missing items') := by
      cases hitems with
      | cons hitem hrest =>
        rw [readItem, readItem]
        exact (hschema hitem).bind fun hvalue => .ok ⟨hvalue, hrest⟩
      | nil =>
        cases missing with
        | none => exact .error _ _
        | some value => exact .ok ⟨hmissing value rfl, .nil⟩
    exact hitem.bind fun hfront =>
      (ih (position + 1) hfront.2).bind fun hrow => .ok ⟨⟨hfront.1, hrow.1⟩, hrow.2⟩

/-- A field that has to be there. -/
theorem ReadByName.required {name : String} {schema : Schema α} {rest : Fields τ}
    {sameRest : τ → τ → Prop} (hschema : ByName same schema.read)
    (hrest : rest.ReadByName sameRest) :
    (Fields.field name schema none rest).ReadByName fun row row' =>
      same row.1 row'.1 ∧ sameRest row.2 row'.2 :=
  .field hschema (fun _ hvalue => by cases hvalue) hrest

/-- A strict record admits only members that are declared. -/
def Admits (fields : Fields τ) (strict : Bool) (members : List (String × Json)) : Prop :=
  strict = true → ∀ name ∈ members.map Prod.fst, name ∈ fields.names

/-- In a row that can be filled, the member that a name looks up passes the check. -/
theorem checkMember_of_fill {strict : Bool} {declared : List String} {filled : τ}
    {name : String} {value : Json} (hfill : fields.fill members = .ok filled)
    (hmember : members.lookup name = some value)
    (hdeclared : strict = true → name ∈ fields.names) :
    fields.checkMember strict declared name value = .ok () := by
  induction fields with
  | done =>
    cases strict with
    | true => cases hdeclared rfl
    | false => rfl
  | field own schema missing rest ih =>
    obtain ⟨hfirst, hrow⟩ := readMember_of_fill hfill
    unfold checkMember
    by_cases hown : own = name
    · subst hown
      rw [hmember] at hfirst
      have hread : schema.read value = .ok filled.1 := hfirst
      rw [if_pos rfl, hread]
      rfl
    · rw [if_neg hown]
      exact ih hrow fun hstrict => (List.mem_cons.mp (hdeclared hstrict)).resolve_left
        fun heq => hown heq.symm

/-- A member that is not declared is refused by a strict record and passed over by another. -/
theorem checkMember_undeclared {strict : Bool} {declared : List String} {name : String}
    {value : Json} (hname : name ∉ fields.names) :
    fields.checkMember strict declared name value =
      if strict then .error (.unknownField name declared) else .ok () := by
  induction fields with
  | done => rfl
  | field own schema missing rest ih =>
    have hown : own ≠ name := fun heq => hname (by rw [names, heq]; exact List.mem_cons_self)
    unfold checkMember
    rw [if_neg hown]
    exact ih fun hrest => hname (List.mem_cons_of_mem own hrest)

/-- The check of members fails if it fails at one of them. -/
theorem checkMembers_eq_error {strict : Bool} {name : String} {value : Json}
    (hmember : (name, value) ∈ members) {e : Json.ReadError}
    (hcheck : fields.checkMember strict fields.names name value = .error e) :
    ∃ e', fields.checkMembers strict members = .error e' := by
  induction members with
  | nil => cases hmember
  | cons first rest ih =>
    obtain ⟨own, own_value⟩ := first
    unfold checkMembers
    rcases List.mem_cons.mp hmember with heq | hrest
    · cases heq
      exact ⟨e, Except.bind_eq_error_iff.mpr (.inl hcheck)⟩
    · obtain ⟨e', he'⟩ := ih hrest
      cases hfirst : fields.checkMember strict fields.names own own_value with
      | ok checked => exact ⟨e', he'⟩
      | error e'' => exact ⟨e'', rfl⟩

/-- The check stops at the one member that fails. -/
theorem checkMembers_eq_error_of_one {strict : Bool} {name : String} {value : Json}
    {failure : Json.ReadError} (hmember : members.lookup name = some value)
    (hfails : fields.checkMember strict fields.names name value = .error failure)
    (hothers : ∀ other ∈ members, other.1 ≠ name →
      fields.checkMember strict fields.names other.1 other.2 = .ok ()) :
    fields.checkMembers strict members = .error failure := by
  obtain ⟨front, back, rfl, hfront⟩ := List.lookup_eq_some_iff.mp hmember
  clear hmember
  induction front with
  | nil => rw [List.nil_append, checkMembers, hfails, Except.error_bind]
  | cons first front ih =>
    have hne : first.1 ≠ name := fun h => bne_iff_ne.mp (hfront first List.mem_cons_self) h.symm
    rw [List.cons_append, checkMembers, hothers first List.mem_cons_self hne, Except.ok_bind]
    exact ih (fun other hother => hfront other (List.mem_cons_of_mem first hother))
      fun other hother => hothers other (List.mem_cons_of_mem first hother)

end Fields

section

variable {name : String} {fields : Fields τ} {row : Row ρ τ} {strict : Bool}
  {members members' : List (String × Json)}

/-- An object with distinct names that a record admits is read by filling its fields alone. The
check comes first, but what it would find fault with could not have been filled in. -/
theorem Schema.record_read_object (hdistinct : Distinct members)
    (hadmits : fields.Admits strict members) :
    SameOutcome Eq ((Schema.record name fields row strict).read (.object members))
      ((fields.fill members).map row.ofRow) := by
  show SameOutcome Eq (fields.checkMembers strict members >>= fun _ =>
    fields.fill members >>= fun filled => .ok (row.ofRow filled)) _
  cases hfill : fields.fill members with
  | error e =>
    cases fields.checkMembers strict members with
    | ok checked => exact .error e e
    | error e' => exact .error e' e
  | ok filled =>
    have hcheck : fields.checkMembers strict members = .ok () := by
      refine Fields.checkMembers_eq_ok fun member hmember => ?_
      exact Fields.checkMember_of_fill hfill (hdistinct.lookup_eq_some_iff.mpr hmember)
        fun hstrict => hadmits hstrict _ (List.mem_map_of_mem hmember)
    rw [hcheck]
    exact .ok rfl

/-- An object that is read as a record is the one that its row is filled from. -/
theorem Schema.fill_of_record_read {record : ρ}
    (h : (Schema.record name fields row strict).read (.object members) = .ok record) :
    fields.fill members = .ok (row.toRow record) := by
  obtain ⟨-, -, hfilled⟩ := Except.bind_eq_ok_iff.mp h
  obtain ⟨filled, hfill, hrecord⟩ := Except.bind_eq_ok_iff.mp hfilled
  rw [hfill, ← Except.ok.inj hrecord, row.toRow_ofRow]

/-- A sequence that is read as a record is the one that its row is filled from. -/
theorem Schema.fillFrom_of_record_read {items : List Json} {record : ρ}
    (h : (Schema.record name fields row strict).read (.array items) = .ok record) :
    fields.fillFrom (elements name fields.names.length) 0 items = .ok (row.toRow record, []) := by
  obtain ⟨⟨filled, left⟩, hfill, hrecord⟩ := Except.bind_eq_ok_iff.mp h
  cases left with
  | nil =>
    rw [hfill, ← Except.ok.inj hrecord, row.toRow_ofRow]
  | cons item left => cases hrecord

/-- An object that a record does not admit is not read. -/
theorem Schema.record_read_undeclared (hadmits : ¬fields.Admits strict members) :
    ∃ e, (Schema.record name fields row strict).read (.object members) = .error e := by
  simp only [Fields.Admits, not_forall] at hadmits
  obtain ⟨rfl, undeclared, hmem, hname⟩ := hadmits
  obtain ⟨⟨_, value⟩, hmember, rfl⟩ := List.mem_map.mp hmem
  have hcheck : fields.checkMember true fields.names _ value = .error _ :=
    (Fields.checkMember_undeclared hname).trans (if_pos rfl)
  obtain ⟨e, he⟩ := Fields.checkMembers_eq_error hmember hcheck
  exact ⟨e, Except.bind_eq_error_iff.mpr (.inl he)⟩

/-- A record goes by name when its fields do. Only the names decide whether the members are
admitted, and they are the same. -/
theorem Schema.record_byName {sameRow : τ → τ → Prop} {same : ρ → ρ → Prop}
    (hfields : fields.ReadByName sameRow)
    (hsame : ∀ {r r'}, sameRow r r' → same (row.ofRow r) (row.ofRow r')) :
    ByName same (Schema.record name fields row strict).read := by
  intro value value' hvalue
  cases hvalue with
  | @object members shuffled members' hdistinct horder hmembers =>
    have hnames : (members.map Prod.fst).Perm (members'.map Prod.fst) := by
      rw [← Json.map_fst_reordered hmembers]
      exact horder.map Prod.fst
    have hdistinct' : Distinct members' := hnames.nodup_iff.mp hdistinct
    by_cases hadmits : fields.Admits strict members
    · have hadmits' : fields.Admits strict members' := fun hstrict other hother =>
        hadmits hstrict other (hnames.mem_iff.mpr hother)
      have hfill := hfields.fill (Json.lookup_reordered hdistinct horder hmembers)
      exact (hfill.map hsame).of_eq (record_read_object hdistinct hadmits)
        (record_read_object hdistinct' hadmits')
    · have hadmits' : ¬fields.Admits strict members' := fun h => hadmits fun hstrict other hother =>
        h hstrict other (hnames.mem_iff.mp hother)
      have hread : ∃ e, (Schema.record name fields row strict).read (.object members) = .error e :=
        record_read_undeclared hadmits
      have hread' : ∃ e, (Schema.record name fields row strict).read (.object members') =
          .error e := record_read_undeclared hadmits'
      obtain ⟨e, he⟩ := hread
      obtain ⟨e', he'⟩ := hread'
      rw [he, he']
      exact .error e e'
  | @array items items' hitems =>
    show SameOutcome same (fields.fillFrom (elements name fields.names.length) 0 items >>= _)
      (fields.fillFrom (elements name fields.names.length) 0 items' >>= _)
    refine (hfields.fillFrom _ 0 hitems).bind fun {filled filled'} hfilled => ?_
    obtain ⟨filled, rest⟩ := filled
    obtain ⟨filled', rest'⟩ := filled'
    obtain ⟨hrow, hrest⟩ := hfilled
    cases hrest with
    | nil => exact .ok (hsame hrow)
    | cons => exact .error _ _
  | _ => exact .error _ _

end

/-! ### Schemas that go by name and keep nothing verbatim -/

/-- A schema that reads two values that differ in the order of members as one value. -/
class Schema.Unordered (schema : Schema α) : Prop where
  byName : ByName Eq schema.read

/-- Fields whose schemas read two values that differ in the order of members as one value. -/
class Fields.Unordered (fields : Fields τ) : Prop where
  readByName : ∃ sameRow, fields.ReadByName sameRow ∧ ∀ {r r'}, sameRow r r' → r = r'

namespace Schema

export Unordered (byName)

instance : text.Unordered := ⟨text_byName⟩

instance : uint64.Unordered := ⟨uint64_byName⟩

instance : amount.Unordered := ⟨amount_byName⟩

instance : base64.Unordered := ⟨base64_byName⟩

/-- What is parsed from a text is unordered. -/
theorem Unordered.ofText {parse : String → Except ε α} {refusal : ε → String} {write : α → String}
    {shown : α → Shown} : (ofText parse refusal write shown).Unordered :=
  ⟨ofText_byName⟩

instance {schema : Schema α} [schema.Unordered] : schema.optional.Unordered where
  byName _ _ h := (optional_byName byName h).mono fun hsame => by
    cases hsame with
    | none => rfl
    | some heq => rw [heq]

instance {schema : Schema α} [schema.Unordered] : schema.list.Unordered where
  byName _ _ h := (list_byName byName h).mono fun hsame => List.forall₂_eq_eq_eq ▸ hsame

/-- A record reads two values that differ in the order of members as one when its fields do. -/
theorem Unordered.record {name : String} {fields : Fields τ} {row : Row ρ τ} {strict : Bool}
    [hfields : fields.Unordered] : (Schema.record name fields row strict).Unordered := by
  obtain ⟨sameRow, hread, hsame⟩ := hfields.readByName
  exact ⟨record_byName hread fun hrow => congrArg row.ofRow (hsame hrow)⟩

end Schema

instance : Fields.done.Unordered := ⟨_, .done, fun _ => rfl⟩

instance {name : String} {schema : Schema α} {missing : Option α} {rest : Fields τ}
    [schema.Unordered] [hrest : rest.Unordered] :
    (Fields.field name schema missing rest).Unordered where
  readByName := by
    obtain ⟨sameRest, hread, hsame⟩ := hrest.readByName
    exact ⟨_, .field Schema.byName (fun _ _ => rfl) hread, fun h => Prod.ext h.1 (hsame h.2)⟩

end LedgerWire
