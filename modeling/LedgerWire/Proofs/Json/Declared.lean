import LedgerWire.Proofs.Json.Inside

/-!
# Members in the order of the declaration

A record is read from an object by member name and from a list by position. When the members of the
object are those of the record in the order of its declaration, the two readings are one: every
field is read from the value in its place, and the first value that fails is the one reported.
-/

namespace LedgerWire

variable {α ρ τ : Type}

namespace Fields

variable {fields : Fields τ} {own : String} {schema : Schema α} {strict : Bool}

/-- When no field is left, the items stay as they are. -/
theorem fillFrom_done (expected : String) (position : Nat) (items : List Json) :
    done.fillFrom expected position items = .ok ((), items) := rfl

/-- The next item is the value of the next field. -/
theorem fillFrom_cons {name : String} {missing : Option α} {rest : Fields τ} (expected : String)
    (position : Nat) (item : Json) (items : List Json) :
    (field name schema missing rest).fillFrom expected position (item :: items) =
      schema.read item >>= fun value =>
        (rest.fillFrom expected (position + 1) items).map fun filled =>
          ((value, filled.1), filled.2) := by
  rw [fillFrom_field, readItem]
  cases schema.read item with
  | error error => rfl
  | ok value =>
    simp only [Except.map_ok, Except.ok_bind]
    cases rest.fillFrom expected (position + 1) items <;> rfl

/-- A member is checked by the field of its name. -/
theorem checkMember_of_has (hnames : fields.names.Nodup) (hfield : fields.Has own schema)
    (declared : List String) (value : Json) :
    fields.checkMember strict declared own value = (schema.read value).map fun _ => () := by
  induction hfield with
  | first name schema missing rest =>
    unfold checkMember
    rw [if_pos rfl]
  | next other first missing hrest ih =>
    obtain ⟨hother, hnames⟩ := List.nodup_cons.mp hnames
    unfold checkMember
    rw [if_neg fun heq : other = _ => hother (heq ▸ hrest.mem_names)]
    exact ih hnames

/-- The check of members in the order of the declaration, here from some field on, goes as the
reading by position does. -/
theorem checkMembers_zip {σ : Type} (hnames : fields.names.Nodup) (tail : Fields σ)
    (htail : ∀ {α : Type} {own : String} {schema : Schema α},
      tail.Has own schema → fields.Has own schema)
    {values : List Json} (hlength : values.length = tail.names.length) (expected : String)
    (position : Nat) :
    fields.checkMembers strict (tail.names.zip values) =
      (tail.fillFrom expected position values).map fun _ => () := by
  induction tail generalizing values position with
  | done => rfl
  | field name schema missing rest ih =>
    obtain ⟨value, values, rfl⟩ := List.exists_cons_of_length_eq_add_one hlength
    have hfirst : fields.checkMember strict fields.names name value = _ :=
      checkMember_of_has hnames (htail (.first name schema missing rest)) fields.names value
    have hrest := ih (fun hfield => htail (.next name schema missing hfield)) (Nat.succ.inj hlength)
      (position + 1)
    show (fields.checkMember strict fields.names name value >>= fun _ =>
      fields.checkMembers strict (rest.names.zip values)) = _
    rw [fillFrom_cons, hfirst, hrest]
    cases schema.read value with
    | error error => rfl
    | ok value => cases rest.fillFrom expected (position + 1) values <;> rfl

/-- The fields are filled from members in the order of the declaration as by position, whatever
stands before them under other names. -/
theorem fill_zip (hnames : fields.names.Nodup) {values : List Json}
    (hlength : values.length = fields.names.length) {before : List (String × Json)}
    (hbefore : ∀ name ∈ fields.names, before.lookup name = none) (expected : String)
    (position : Nat) :
    fields.fill (before ++ fields.names.zip values) =
      (fields.fillFrom expected position values).map Prod.fst := by
  induction fields generalizing values before position with
  | done => rfl
  | field name schema missing rest ih =>
    obtain ⟨hname, hnames⟩ := List.nodup_cons.mp hnames
    obtain ⟨value, values, rfl⟩ := List.exists_cons_of_length_eq_add_one hlength
    have hlookup : (before ++ (name, value) :: rest.names.zip values).lookup name = some value := by
      rw [List.lookup_append, hbefore name List.mem_cons_self]
      simp
    have hothers : ∀ other ∈ rest.names, (before ++ [(name, value)]).lookup other = none := by
      intro other hother
      have hne : other ≠ name := fun heq => hname (heq ▸ hother)
      rw [List.lookup_append, hbefore other (List.mem_cons_of_mem name hother), List.lookup_cons,
        beq_false_of_ne hne]
      rfl
    have hrest := ih hnames (Nat.succ.inj hlength) hothers (position + 1)
    rw [← List.append_cons] at hrest
    show (Fields.field name schema missing rest).fill
      (before ++ (name, value) :: rest.names.zip values) = _
    rw [fill_field, fillFrom_cons, hlookup, readMember, hrest]
    cases schema.read value with
    | error error => rfl
    | ok value => cases rest.fillFrom expected (position + 1) values <;> rfl

/-- A list with an item for each field is used up. -/
theorem rest_eq_nil_of_fillFrom {values rest : List Json} {expected : String} {position : Nat}
    {row : τ} (hlength : values.length = fields.names.length)
    (h : fields.fillFrom expected position values = .ok (row, rest)) : rest = [] := by
  induction fields generalizing values position with
  | done =>
    cases h
    exact List.length_eq_zero_iff.mp hlength
  | field name schema missing tail ih =>
    obtain ⟨value, values, rfl⟩ := List.exists_cons_of_length_eq_add_one hlength
    rw [fillFrom_cons] at h
    obtain ⟨first, -, hfilled⟩ := Except.bind_eq_ok_iff.mp h
    obtain ⟨⟨filled, left⟩, hrest, heq⟩ := Except.map_eq_ok_iff.mp hfilled
    cases heq
    exact ih (Nat.succ.inj hlength) hrest

end Fields

namespace Schema

variable {name : String} {fields : Fields τ} {row : Row ρ τ} {strict : Bool} {values : List Json}

/-- A list with an item for each field is read field by field. -/
theorem record_read_array (hlength : values.length = fields.names.length) :
    (record name fields row strict).read (.array values) =
      (fields.fillFrom (elements name fields.names.length) 0 values).map
        fun filled => row.ofRow filled.1 := by
  show (fields.fillFrom (elements name fields.names.length) 0 values >>= _) = _
  cases hread : fields.fillFrom (elements name fields.names.length) 0 values with
  | error error => rfl
  | ok filled =>
    obtain ⟨filled, rest⟩ := filled
    obtain rfl := Fields.rest_eq_nil_of_fillFrom hlength hread
    rfl

/-- An object with the members of a record in the order of the declaration is read as the list of
their values. -/
theorem record_read_zip (hnames : fields.names.Nodup)
    (hlength : values.length = fields.names.length) :
    (record name fields row strict).read (.object (fields.names.zip values)) =
      (record name fields row strict).read (.array values) := by
  have hcheck : fields.checkMembers strict (fields.names.zip values) = _ :=
    Fields.checkMembers_zip hnames fields id hlength (elements name fields.names.length) 0
  have hfill : fields.fill ([] ++ fields.names.zip values) = _ :=
    Fields.fill_zip hnames hlength (fun _ _ => rfl) (elements name fields.names.length) 0
  rw [List.nil_append] at hfill
  rw [record_read_array hlength]
  show (fields.checkMembers strict (fields.names.zip values) >>= fun _ =>
    fields.fill (fields.names.zip values) >>= fun filled => .ok (row.ofRow filled)) = _
  rw [hcheck, hfill]
  cases fields.fillFrom (elements name fields.names.length) 0 values <;> rfl

end Schema

end LedgerWire
