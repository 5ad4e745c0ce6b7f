import LedgerWire.Json.Schema
import LedgerWire.Proofs.Text.Base64
import LedgerWire.Proofs.Text.Decimal

/-!
# Schemas that restore what they write

A schema restores a value when reading what is written for it gives the value back. Texts, words,
amounts and buffers are always restored. A list is restored when its items are, an optional value
when what it holds is and is not written as null, and a record when its fields are and have
different names.
-/

namespace LedgerWire

variable {α ε ρ τ : Type}

/-- The word that a number was written for is the word of that number. -/
theorem Json.uint64?_ofUInt64 (word : UInt64) : (ofUInt64 word).uint64? = some word := by
  have hpos : (0 : Int) ≤ word.toNat := by omega
  rw [ofUInt64, uint64?, Number.ofUInt64, Number.toUInt64?, if_pos hpos, Int.toNat_natCast,
    UInt64.ofNat_toNat]

/-- A value is read as a word exactly when it is the number of that word. -/
theorem Json.uint64?_eq_some_iff {value : Json} {word : UInt64} :
    value.uint64? = some word ↔ value = .ofUInt64 word := by
  constructor
  · intro h
    match value, h with
    | .number (.integer n range), h =>
      rw [uint64?, Number.toUInt64?] at h
      split at h
      · rename_i hpos
        have hlt : n.toNat < UInt64.size := by
          have hbound := range.2
          rw [UInt64.size]
          omega
        have hword : UInt64.ofNat n.toNat = word := Option.some.inj h
        have hn : (word.toNat : Int) = n := by
          rw [← hword, UInt64.toNat_ofNat_of_lt' hlt]
          omega
        simp only [ofUInt64, Number.ofUInt64, hn]
      · cases h
  · rintro rfl
    exact uint64?_ofUInt64 word

namespace Schema

/-- Reading what the schema writes for the value gives the value back. -/
def Restores (schema : Schema α) (value : α) : Prop := schema.read (schema.write value) = .ok value

/-- A value that is kept verbatim is restored. -/
theorem json_restores (value : Json) : json.Restores value := rfl

/-- A text is restored. -/
theorem text_restores (value : String) : text.Restores value := rfl

/-- A natural number below the limit is read as itself. -/
theorem readBelow_ofUInt64 {limit : Nat} {word : UInt64} (expected : String)
    (hword : word.toNat < limit) :
    readBelow limit expected (Json.ofUInt64 word) = .ok word.toNat := by
  have hbounds : (0 : Int) ≤ word.toNat ∧ (word.toNat : Int).toNat < limit := by omega
  rw [Json.ofUInt64, Json.Number.ofUInt64, readBelow, if_pos hbounds, Int.toNat_natCast]

/-- A word is restored. -/
theorem uint64_restores (word : UInt64) : uint64.Restores word := by
  unfold Restores
  show (readBelow (2 ^ 64) "u64" (Json.ofUInt64 word)).map UInt64.ofNat = .ok word
  rw [readBelow_ofUInt64 _ word.toNat_lt, Except.map_ok, UInt64.ofNat_toNat]

/-- An amount is restored. -/
theorem amount_restores (value : Amount) : amount.Restores value := by
  show readAmount (.string value.text) = .ok value
  unfold readAmount
  simp only [Amount.ofText_text]

/-- Bytes are restored from base64. -/
theorem base64_restores (bytes : Bytes) : base64.Restores bytes := by
  simp only [Restores, base64, text, Except.ok_bind, Base64.decode_encode]

/-- What is written as a text is parsed from a text. -/
theorem ofText_read_string {parse : String → Except ε α} {refusal : ε → String}
    {write : α → String} {shown : α → Shown} (content : String) :
    (ofText parse refusal write shown).read (.string content) =
      (parse content).mapError fun failure => .refused (refusal failure) := by
  have htext : text.read (.string content) = .ok content := text_restores content
  simp only [ofText, htext, Except.ok_bind]
  cases parse content <;> rfl

/-- A value that is written as a text is restored when the text is read back. -/
theorem ofText_restores {parse : String → Except ε α} {refusal : ε → String} {write : α → String}
    {shown : α → Shown} {value : α} (hparse : parse (write value) = .ok value) :
    (ofText parse refusal write shown).Restores value := by
  have htext : text.read (.string (write value)) = .ok (write value) := text_restores (write value)
  simp only [Restores, ofText, htext, Except.ok_bind, hparse]

/-- An absent value is restored, and so is a present one that is restored and not written as
null. -/
theorem optional_restores {schema : Schema α} {value : Option α}
    (hnull : ∀ present ∈ value, schema.write present ≠ .null)
    (hpresent : ∀ present ∈ value, schema.Restores present) :
    schema.optional.Restores value := by
  cases value with
  | none => rfl
  | some present =>
    have hread : schema.read (schema.write present) = .ok present := hpresent present rfl
    have hother : schema.write present ≠ .null := hnull present rfl
    simp only [Restores, optional]
    cases hwrite : schema.write present with
    | null => exact absurd hwrite hother
    | _ => rw [← hwrite, hread, Except.map_ok]

/-- A list is restored if its items are. -/
theorem list_restores {schema : Schema α} {values : List α}
    (hitems : ∀ value ∈ values, schema.Restores value) : schema.list.Restores values := by
  show readItems schema (values.map schema.write) = .ok values
  induction values with
  | nil => rfl
  | cons value values ih =>
    have hvalue : schema.read (schema.write value) = .ok value := hitems value (by simp)
    have hrest := ih fun other hother => hitems other (by simp [hother])
    rw [List.map_cons, readItems, hvalue, Except.ok_bind, hrest, Except.ok_bind]
    rfl

end Schema

namespace Fields

/-- Every field of the row is restored by its schema. -/
def Restores : {τ : Type} → Fields τ → τ → Prop
  | _, .done, _ => True
  | _, .field _ schema _ rest, (value, row) => schema.Restores value ∧ rest.Restores row

/-- The members of a row have the names of the fields. -/
theorem map_fst_write (fields : Fields τ) (row : τ) :
    (fields.write row).map Prod.fst = fields.names := by
  induction fields with
  | done => rfl
  | field name schema missing rest ih => exact congrArg (name :: ·) (ih row.2)

/-- A written member is read by the field it was written for, since no other has its name. -/
theorem checkMember_of_mem {fields : Fields τ} {row : τ} (hnames : fields.names.Nodup)
    (hrow : fields.Restores row) (strict : Bool) (declared : List String)
    {member : String × Json} (hmember : member ∈ fields.write row) :
    fields.checkMember strict declared member.1 member.2 = .ok () := by
  induction fields with
  | done => cases hmember
  | field name schema missing rest ih =>
    obtain ⟨value, row⟩ := row
    obtain ⟨hname, hnames⟩ := List.nodup_cons.mp hnames
    obtain ⟨hvalue, hrow⟩ := hrow
    rcases List.mem_cons.mp hmember with rfl | hrest
    · have hread : schema.read (schema.write value) = .ok value := hvalue
      simp [checkMember, hread]
    · have hne : name ≠ member.1 := by
        rintro rfl
        rw [← map_fst_write rest row] at hname
        exact hname (List.mem_map_of_mem hrest)
      rw [checkMember, if_neg hne]
      exact ih hnames hrow hrest

/-- The check of members passes if it passes each of them. -/
theorem checkMembers_eq_ok {fields : Fields τ} {strict : Bool} {members : List (String × Json)}
    (hmembers : ∀ member ∈ members,
      fields.checkMember strict fields.names member.1 member.2 = .ok ()) :
    fields.checkMembers strict members = .ok () := by
  induction members with
  | nil => rfl
  | cons member members ih =>
    obtain ⟨name, value⟩ := member
    have hhead : fields.checkMember strict fields.names name value = .ok () :=
      hmembers (name, value) (by simp)
    rw [checkMembers, hhead, Except.ok_bind]
    exact ih fun other hother => hmembers other (by simp [hother])

/-- The row is filled from its own members, whatever stands before them under other names. -/
theorem fill_write {fields : Fields τ} {row : τ} (hnames : fields.names.Nodup)
    (hrow : fields.Restores row) {before : List (String × Json)}
    (hbefore : ∀ name ∈ fields.names, before.lookup name = none) :
    fields.fill (before ++ fields.write row) = .ok row := by
  induction fields generalizing before with
  | done => rfl
  | field name schema missing rest ih =>
    obtain ⟨value, row⟩ := row
    obtain ⟨hname, hnames⟩ := List.nodup_cons.mp hnames
    obtain ⟨hvalue, hrow⟩ := hrow
    have hread : schema.read (schema.write value) = .ok value := hvalue
    have hlookup : (before ++ (name, schema.write value) :: rest.write row).lookup name =
        some (schema.write value) := by
      rw [List.lookup_append, hbefore name (by simp [names])]
      simp
    have hrest : rest.fill (before ++ (name, schema.write value) :: rest.write row) = .ok row := by
      rw [List.append_cons]
      refine ih hnames hrow fun other hother => ?_
      have hne : other ≠ name := by
        rintro rfl
        exact hname hother
      rw [List.lookup_append, hbefore other (by simp [names, hother]), List.lookup_cons,
        beq_false_of_ne hne]
      rfl
    simp only [fill, write, hlookup, hread, hrest, Except.ok_bind]
    rfl

end Fields

/-- A record is restored when its fields are, if their names differ. -/
theorem Schema.record_restores {name : String} {fields : Fields τ} {row : Row ρ τ} {strict : Bool}
    {record : ρ} (hnames : fields.names.Nodup) (hrow : fields.Restores (row.toRow record)) :
    (Schema.record name fields row strict).Restores record := by
  have hcheck : fields.checkMembers strict (fields.write (row.toRow record)) = .ok () :=
    Fields.checkMembers_eq_ok fun _ hmember =>
      Fields.checkMember_of_mem hnames hrow strict fields.names hmember
  have hfill : fields.fill ([] ++ fields.write (row.toRow record)) = .ok (row.toRow record) :=
    Fields.fill_write hnames hrow fun _ _ => rfl
  rw [List.nil_append] at hfill
  show (do
      fields.checkMembers strict (fields.write (row.toRow record))
      let filled ← fields.fill (fields.write (row.toRow record))
      return row.ofRow filled) = Except.ok record
  rw [hcheck, Except.ok_bind, hfill, Except.ok_bind, row.ofRow_toRow]
  rfl

/-! ### Schemas that restore every value -/

/-- A schema that restores every value. -/
class Schema.Faithful (schema : Schema α) : Prop where
  restores (value : α) : schema.Restores value

/-- A schema that writes no value as null. -/
class Schema.NeverNull (schema : Schema α) : Prop where
  write_ne_null (value : α) : schema.write value ≠ .null

/-- Fields whose schemas restore every value. -/
class Fields.Faithful (fields : Fields τ) : Prop where
  restores (row : τ) : fields.Restores row

namespace Schema

export Faithful (restores)
export NeverNull (write_ne_null)

instance : json.Faithful := ⟨json_restores⟩

instance : text.Faithful := ⟨text_restores⟩

instance : text.NeverNull := ⟨fun _ => Json.noConfusion⟩

instance : uint64.Faithful := ⟨uint64_restores⟩

instance : uint64.NeverNull := ⟨fun _ => Json.noConfusion⟩

instance : amount.Faithful := ⟨amount_restores⟩

instance : amount.NeverNull := ⟨fun _ => Json.noConfusion⟩

instance : base64.Faithful := ⟨base64_restores⟩

instance {schema : Schema α} [schema.Faithful] [schema.NeverNull] : schema.optional.Faithful :=
  ⟨fun _ => optional_restores (fun present _ => write_ne_null present) fun present _ =>
    restores present⟩

instance {schema : Schema α} [schema.Faithful] : schema.list.Faithful :=
  ⟨fun _ => list_restores fun value _ => restores value⟩

/-- A type is faithfully written as a text when every text that is written is read back. -/
theorem Faithful.ofText {parse : String → Except ε α} {refusal : ε → String} {write : α → String}
    {shown : α → Shown} (hparse : ∀ value, parse (write value) = .ok value) :
    (ofText parse refusal write shown).Faithful :=
  ⟨fun value => ofText_restores (hparse value)⟩

end Schema

instance : Fields.done.Faithful := ⟨fun _ => trivial⟩

instance {name : String} {schema : Schema α} {missing : Option α} {rest : Fields τ}
    [schema.Faithful] [rest.Faithful] : (Fields.field name schema missing rest).Faithful :=
  ⟨fun row => ⟨Schema.restores row.1, Fields.Faithful.restores row.2⟩⟩

/-- A record is faithfully written when its fields are and their names differ. -/
theorem Schema.Faithful.record {name : String} {fields : Fields τ} {row : Row ρ τ} {strict : Bool}
    [fields.Faithful] (hnames : fields.names.Nodup) :
    (Schema.record name fields row strict).Faithful :=
  ⟨fun value => record_restores hnames (Fields.Faithful.restores (row.toRow value))⟩

end LedgerWire
