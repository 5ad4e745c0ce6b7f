import LedgerWire.AccessKey
import LedgerWire.Proofs.Json.Inside

/-!
# Amounts in JSON

An amount is read from the texts that stand for it, and from its JSON number as long as that fits
64 bits. Everything else is refused, so no amount is cut off or wrapped around. It is written as its
one text without a sign or a leading zero. Null stands for an amount that is absent, and so does a
missing allowance.
-/

namespace LedgerWire

namespace Schema

open Decimal (Denotes NoNumber)

/-- An amount as a JSON value: a text that stands for it, or its number if that fits 64 bits. -/
inductive GivesAmount : Json → Nat → Prop where
  | text {text : String} {units : Nat} (h : Denotes text units) : GivesAmount (.string text) units
  | number {value : Int} {range : -2 ^ 63 ≤ value ∧ value < 2 ^ 64} {units : Nat}
      (h : value = units) : GivesAmount (.number (.integer value range)) units

/-- A JSON value that is no amount. -/
inductive NoAmount : Json → Prop where
  | text {text : String} (h : NoNumber text) : NoAmount (.string text)
  | tooLarge {text : String} {units : Nat} (h : Denotes text units) (hunits : 2 ^ 128 ≤ units) :
      NoAmount (.string text)
  | negative {value : Int} {range : -2 ^ 63 ≤ value ∧ value < 2 ^ 64} (h : value < 0) :
      NoAmount (.number (.integer value range))
  | double (value : Double) : NoAmount (.number (.double value))
  | null : NoAmount .null
  | bool (value : Bool) : NoAmount (.bool value)
  | array (items : List Json) : NoAmount (.array items)
  | object (members : List (String × Json)) : NoAmount (.object members)

/-- In a text an amount is read as decimal text. -/
theorem amount_read_string (text : String) :
    amount.read (.string text) = (Amount.ofText text).mapError fun fault =>
      .refused ("invalid u128 " ++ Json.marked text ++ ": " ++ fault.message) := by
  show readAmount (.string text) = _
  simp only [readAmount]
  cases Amount.ofText text <;> rfl

/-- An integer is read as the amount of its units unless it is negative. -/
theorem amount_read_integer {value : Int} {range : -2 ^ 63 ≤ value ∧ value < 2 ^ 64}
    {units : Amount} :
    amount.read (.number (.integer value range)) = .ok units ↔ value = units.units := by
  show readAmount (.number (.integer value range)) = .ok units ↔ _
  simp only [readAmount, Json.uint64?, Json.Number.toUInt64?]
  have hbound := range.2
  by_cases hpos : 0 ≤ value
  · have hword : (UInt64.ofNat value.toNat).toNat = value.toNat :=
      UInt64.toNat_ofNat_of_lt' (by rw [UInt64.size]; omega)
    simp only [if_pos hpos, Except.ok.injEq]
    constructor
    · rintro rfl
      simp only [Amount.ofUInt64, hword]
      omega
    · intro h
      obtain ⟨number, hlt⟩ := units
      have hnumber : value = (number : Int) := h
      simp only [Amount.ofUInt64, hword, Amount.mk.injEq]
      omega
  · simp only [if_neg hpos]
    refine iff_of_false (fun h => by cases h) fun h => ?_
    omega

/-- A value is read as the amount that it gives. -/
theorem amount_read_eq_ok_iff {json : Json} {value : Amount} :
    amount.read json = .ok value ↔ GivesAmount json value.units := by
  cases json with
  | string text =>
    rw [amount_read_string, Except.mapError_eq_ok_iff, Amount.ofText_eq_ok_iff]
    constructor
    · exact .text
    · intro h
      cases h with
      | text h => exact h
  | number number =>
    cases number with
    | integer integer range =>
      rw [amount_read_integer]
      constructor
      · exact .number
      · intro h
        cases h with
        | number h => exact h
    | double double => exact iff_of_false (fun h => by cases h) fun h => by cases h
  | _ => exact iff_of_false (fun h => by cases h) fun h => by cases h

/-- A value is no amount exactly when it gives none. -/
theorem noAmount_iff {json : Json} :
    NoAmount json ↔ ∀ value : Amount, ¬GivesAmount json value.units := by
  constructor
  · intro h value hgives
    have hlt := value.units_lt
    cases hgives with
    | text hdenotes =>
      cases h with
      | text hnone => exact hnone.not_denotes hdenotes
      | tooLarge hother hunits =>
        rw [hdenotes.unique hother] at hlt
        omega
    | number hvalue =>
      cases h with
      | negative hnegative => omega
  · intro h
    cases json with
    | string text =>
      rcases Decimal.exists_denotes_or_noNumber text with ⟨units, hunits⟩ | hnone
      · by_cases hlt : units < 2 ^ 128
        · exact absurd (.text hunits) (h ⟨units, hlt⟩)
        · exact .tooLarge hunits (Nat.le_of_not_lt hlt)
      · exact .text hnone
    | number number =>
      cases number with
      | integer integer range =>
        by_cases hpos : 0 ≤ integer
        · have hbound := range.2
          exact absurd (.number (by simp; omega)) (h ⟨integer.toNat, by omega⟩)
        · exact .negative (by omega)
      | double double => exact .double double
    | null => exact .null
    | bool value => exact .bool value
    | array items => exact .array items
    | object members => exact .object members

/-- A value that is no amount is refused, and no other. -/
theorem exists_amount_read_eq_error_iff {json : Json} :
    (∃ error, amount.read json = .error error) ↔ NoAmount json := by
  rw [noAmount_iff]
  simp only [← amount_read_eq_ok_iff]
  cases amount.read json <;> simp

end Schema

/-! ### A missing allowance -/

section

variable {α ρ τ : Type} {name own : String} {schema : Schema α} {missing : Option α}
  {rest : Fields τ} {row : Row ρ (α × τ)} {strict : Bool} {members : List (String × Json)}

/-- The first field of a record may be missing if what stands in for it is what null is read as. -/
theorem Schema.record_read_null {value : α} (hnull : schema.read .null = .ok value)
    (hnames : own ∉ rest.names) (hmissing : members.lookup own = none) :
    (Schema.record name (.field own schema (some value) rest) row strict).read
        (.object ((own, .null) :: members)) =
      (Schema.record name (.field own schema (some value) rest) row strict).read
        (.object members) := by
  have hcheck : (Fields.field own schema (some value) rest).checkMembers strict
      ((own, .null) :: members) =
        (Fields.field own schema (some value) rest).checkMembers strict members := by
    rw [Fields.checkMembers, Fields.checkMember, if_pos rfl, hnull, Except.map_ok, Except.ok_bind]
  have hrest : rest.fill ((own, .null) :: members) = rest.fill members := by
    refine Fields.fill_congr fun other hother => ?_
    have hne : other ≠ own := fun heq => hnames (heq ▸ hother)
    rw [List.lookup_cons, beq_false_of_ne hne]
  have hfill : (Fields.field own schema (some value) rest).fill ((own, .null) :: members) =
      (Fields.field own schema (some value) rest).fill members := by
    have hfirst : Fields.readMember own schema (some value) (some .null) =
        Fields.readMember own schema (some value) none := hnull
    rw [Fields.fill_field, Fields.fill_field, hrest, hmissing, List.lookup_cons_self, hfirst]
  show (Fields.checkMembers _ strict ((own, .null) :: members) >>= fun _ =>
    Fields.fill _ ((own, .null) :: members) >>= fun filled => .ok (row.ofRow filled)) = _
  rw [hcheck, hfill]
  rfl

/-- The first field of a record that is read is read from its member, if there is one. -/
theorem Schema.first_of_record_read {record : ρ}
    (h : (Schema.record name (.field own schema missing rest) row strict).read (.object members) =
      .ok record) :
    Fields.readMember own schema missing (members.lookup own) = .ok (row.toRow record).1 :=
  (Fields.readMember_of_fill (Schema.fill_of_record_read h)).1

end

namespace FunctionCallPermission

/-- A missing allowance reads as null. -/
theorem schema_read_missing {members : List (String × Json)}
    (hmissing : members.lookup "allowance" = none) :
    schema.read (.object (("allowance", .null) :: members)) = schema.read (.object members) :=
  Schema.record_read_null rfl (by decide) hmissing

/-- The allowance that is read is that of the member, if there is one. -/
theorem allowance_of_schema_read {members : List (String × Json)} {p : FunctionCallPermission}
    (h : schema.read (.object members) = .ok p) :
    (members.lookup "allowance" = none ∧ p.allowance = none) ∨
      ∃ value, members.lookup "allowance" = some value ∧
        Schema.amount.optional.read value = .ok p.allowance := by
  have hread := Schema.first_of_record_read h
  cases hmember : members.lookup "allowance" with
  | none =>
    rw [hmember] at hread
    exact .inl ⟨rfl, (Except.ok.inj hread).symm⟩
  | some value =>
    rw [hmember] at hread
    exact .inr ⟨value, rfl, hread⟩

end FunctionCallPermission

open Schema (GivesAmount NoAmount)

/-- An amount is read from the values that give it, and every other value is refused. It is written
without a sign or a leading zero and read back, and up to 64 bits its number is read as its text is.
An optional amount is absent when it is null, and read alike otherwise; a missing allowance is read
as null. -/
theorem amounts_exact :
    (∀ (json : Json) (value : Amount),
      Schema.amount.read json = .ok value ↔ GivesAmount json value.units) ∧
    (∀ json : Json, (∃ error, Schema.amount.read json = .error error) ↔ NoAmount json) ∧
    (∀ value : Amount, Schema.amount.write value = .string value.text ∧
      Decimal.Plain value.text value.units ∧ Schema.amount.read (.string value.text) = .ok value) ∧
    (∀ word : UInt64, Schema.amount.read (.ofUInt64 word) = .ok (.ofUInt64 word) ∧
      Schema.amount.read (.string (Decimal.write word.toNat)) = .ok (.ofUInt64 word)) ∧
    Schema.amount.optional.read .null = .ok none ∧
    (∀ json : Json, json ≠ .null →
      Schema.amount.optional.read json = (Schema.amount.read json).map some) ∧
    (∀ value : Option Amount,
      Schema.amount.optional.write value = value.elim .null (fun value => .string value.text) ∧
      Schema.amount.optional.Restores value) ∧
    (∀ members : List (String × Json), members.lookup "allowance" = none →
      FunctionCallPermission.schema.read (.object (("allowance", .null) :: members)) =
        FunctionCallPermission.schema.read (.object members)) ∧
    (∀ (members : List (String × Json)) (p : FunctionCallPermission),
      FunctionCallPermission.schema.read (.object members) = .ok p →
        (members.lookup "allowance" = none ∧ p.allowance = none) ∨
          ∃ json, members.lookup "allowance" = some json ∧
            Schema.amount.optional.read json = .ok p.allowance) := by
  refine ⟨fun json value => Schema.amount_read_eq_ok_iff,
    fun json => Schema.exists_amount_read_eq_error_iff, fun value => ?_, fun word => ?_, rfl,
    fun json => Schema.optional_read_of_ne_null, fun value => ?_,
    fun members => FunctionCallPermission.schema_read_missing,
    fun members p => FunctionCallPermission.allowance_of_schema_read⟩
  · exact ⟨rfl, Decimal.write_eq_iff.mp rfl, Schema.amount_restores value⟩
  · exact ⟨Schema.amount_read_integer.mpr rfl, Schema.amount_restores (.ofUInt64 word)⟩
  · refine ⟨?_, Schema.restores value⟩
    cases value <;> rfl

/-- The largest amount is read and the next number is refused; an optional amount has a sign and a
leading zero; and an allowance is missing. -/
theorem amounts_exact_largest :
    let rest : List (String × Json) :=
      [("receiver_id", .string "app.near"), ("method_names", .array [])]
    let p : FunctionCallPermission := ⟨none, ⟨"app.near", by decide⟩, []⟩
    Schema.amount.read (.string "340282366920938463463374607431768211455") =
        .ok ⟨2 ^ 128 - 1, by decide⟩ ∧
      (∃ error, Schema.amount.read (.string "340282366920938463463374607431768211456") =
        .error error) ∧
      Schema.amount.optional.read (.string "+010") = .ok (some ⟨10, by decide⟩) ∧
      FunctionCallPermission.schema.read (.object (("allowance", .null) :: rest)) = .ok p ∧
      p.allowance = none := by
  intro rest p
  obtain ⟨hread, hrefused, -, -, -, hpresent, -, hmissing, hallowance⟩ := amounts_exact
  have hlargest : Decimal.Denotes "340282366920938463463374607431768211455" (2 ^ 128 - 1) :=
    (Decimal.write_eq_iff.mp (by decide)).denotes
  have hnext : Decimal.Denotes "340282366920938463463374607431768211456" (2 ^ 128) :=
    (Decimal.write_eq_iff.mp (by decide)).denotes
  have hp : FunctionCallPermission.schema.read (.object rest) = .ok p := rfl
  refine ⟨(hread _ _).mpr (.text hlargest), (hrefused _).mpr (.tooLarge hnext (Nat.le_refl _)), ?_,
    (hmissing rest rfl).trans hp, ?_⟩
  · exact (hpresent (.string "+010") Json.noConfusion).trans rfl
  · rcases hallowance rest p hp with ⟨-, hnone⟩ | ⟨json, hmember, -⟩
    · exact hnone
    · cases hmember

end LedgerWire
