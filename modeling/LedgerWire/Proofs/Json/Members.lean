import LedgerWire.Proofs.Json.Inside

/-!
# Members are read by name

Values that differ in the order of members are read alike. A member that a record does not declare
is passed over, except that a configuration refuses it; and a union refuses every second member.
These are laws of one object, and they hold of the whole value that the object is a part of,
however deep it is.
-/

namespace LedgerWire

open Json (ByName Distinct ReadsInside)

variable {ρ τ : Type} {front back : List (String × Json)} {own : String} {extra : Json}

/-! ### One object -/

namespace Fields

variable {fields : Fields τ}

/-- The lenient check passes over a member that is not declared. -/
theorem checkMembers_widened (hown : own ∉ fields.names) :
    fields.checkMembers false (front ++ (own, extra) :: back) =
      fields.checkMembers false (front ++ back) := by
  induction front with
  | nil =>
    show (fields.checkMember false fields.names own extra >>= fun _ =>
      fields.checkMembers false back) = fields.checkMembers false back
    rw [checkMember_undeclared hown]
    rfl
  | cons member front ih =>
    rw [List.cons_append, List.cons_append, checkMembers, checkMembers, ih]

/-- A strict record does not admit a member that is not declared. -/
theorem not_admits_widened (hown : own ∉ fields.names) :
    ¬fields.Admits true (front ++ (own, extra) :: back) :=
  fun hadmits => hown (hadmits rfl own (by simp))

end Fields

/-- A record that is not strict passes over a member that it does not declare. -/
theorem Schema.record_read_widened {name : String} {fields : Fields τ} {row : Row ρ τ}
    (hown : own ∉ fields.names) :
    (Schema.record name fields row false).read (.object (front ++ (own, extra) :: back)) =
      (Schema.record name fields row false).read (.object (front ++ back)) := by
  have hfill : fields.fill (front ++ (own, extra) :: back) = fields.fill (front ++ back) :=
    Fields.fill_congr fun other hother => Json.lookup_other fun heq => hown (heq ▸ hother)
  show (fields.checkMembers false _ >>= fun _ => fields.fill _ >>= _) =
    fields.checkMembers false _ >>= fun _ => fields.fill _ >>= _
  rw [Fields.checkMembers_widened hown, hfill]

/-- Inside a union, too, an action error has its index and its kind and passes over the rest. -/
theorem ActionError.decode_widened (hindex : own ≠ "index") (hkind : own ≠ "kind") :
    decode (.object (front ++ (own, extra) :: back)) = decode (.object (front ++ back)) := by
  rw [decode_object, decode_object, Json.lookup_other hindex.symm, Json.lookup_other hkind.symm]

/-- A second member makes an object longer than one. -/
theorem Json.length_widened (hsecond : front ++ back ≠ []) :
    (front ++ (own, extra) :: back).length ≠ 1 := by
  have hpos := List.length_pos_iff.mpr hsecond
  rw [List.length_append] at hpos ⊢
  rw [List.length_cons]
  omega

/-! ### Which records are strict -/

/-- Whether a record refuses members that it does not declare. Configurations do. -/
def RecordType.strict : RecordType → Bool
  | clientConfig | rpcConfig | signerConfig => true
  | _ => false

/-- Every record type is a record with declared fields. -/
theorem RecordType.schema_eq_record (type : RecordType) :
    ∃ (τ : Type) (name : String) (fields : Fields τ) (row : Row type.Value τ),
      type.schema = .record name fields row type.strict := by
  cases type <;> exact ⟨_, _, _, _, rfl⟩

/-- The configuration of the node is read inside that of the client. -/
theorem ClientConfig.readsInside_rpc (hdistinct : Distinct (front ++ ("rpc", .null) :: back)) :
    ReadsInside schema.read RpcConfig.schema.read fun part =>
      .object (front ++ ("rpc", part) :: back) :=
  .deeper (.member (by decide) (.first ..) hdistinct) (.here _)

/-- The configuration of the signer is read inside that of the client. -/
theorem ClientConfig.readsInside_signer
    (hdistinct : Distinct (front ++ ("signer", .null) :: back)) :
    ReadsInside schema.read SignerConfig.schema.read fun part =>
      .object (front ++ ("signer", part) :: back) :=
  .deeper (.member (by decide) (.next _ _ _ (.first ..)) hdistinct)
    (.deeper (.present _) (.here _))

/-! ### The whole value -/

namespace Json

variable {ε α : Type}

/-- A value is read alike when a member of this name is added to the object in a place. -/
def PassesOver (root : Json → Except ε α) (put : Json → Json) (own : String) : Prop :=
  ∀ (front back : List (String × Json)) (extra : Json),
    SameOutcome Eq (root (put (.object (front ++ back))))
      (root (put (.object (front ++ (own, extra) :: back))))

/-- A value is not read when a member of this name is in the object in a place. -/
def Bars (root : Json → Except ε α) (put : Json → Json) (own : String) : Prop :=
  ∀ (front back : List (String × Json)) (extra : Json),
    Refused (root (put (.object (front ++ (own, extra) :: back))))

/-- A value is not read when the object in a place has a second member. -/
def BarsSecond (root : Json → Except ε α) (put : Json → Json) : Prop :=
  ∀ (front back : List (String × Json)) (own : String) (extra : Json), front ++ back ≠ [] →
    Refused (root (put (.object (front ++ (own, extra) :: back))))

namespace ReadsInside

variable {root : Json → Except ε α} {put : Json → Json}

/-- What is refused inside a value makes the whole value refused. -/
theorem refused {δ β : Type} {inner : Json → Except δ β} (hinside : ReadsInside root inner put)
    {members : List (String × Json)} (h : Refused (inner (.object members))) :
    Refused (root (put (.object members))) :=
  hinside.depends.refused Json.noConfusion h

/-- A reader passes over a member if the reader of the place does. -/
theorem passesOver {δ β : Type} {inner : Json → Except δ β}
    (hinside : ReadsInside root inner put)
    (h : ∀ (front back : List (String × Json)) (extra : Json),
      inner (.object (front ++ (own, extra) :: back)) = inner (.object (front ++ back))) :
    PassesOver root put own := by
  intro front back extra
  have hread : SameOutcome Eq (inner (.object (front ++ back)))
      (inner (.object (front ++ (own, extra) :: back))) := by
    rw [h]
    exact .refl (fun _ => rfl) _
  exact hinside.depends.agree rfl hread

variable {name : String} {fields : Fields τ} {row : Row ρ τ}

/-- Inside any value, a lenient record passes over a member that it does not declare. -/
theorem record_passesOver
    (hinside : ReadsInside root (Schema.record name fields row false).read put)
    (hown : own ∉ fields.names) : PassesOver root put own :=
  hinside.passesOver fun _ _ _ => Schema.record_read_widened hown

/-- Inside any value, a strict record bars a member that it does not declare. -/
theorem record_bars (hinside : ReadsInside root (Schema.record name fields row true).read put)
    (hown : own ∉ fields.names) : Bars root put own :=
  fun _ _ _ => hinside.refused (Schema.record_read_undeclared (Fields.not_admits_widened hown))

/-- Inside any value, an action error passes over a member that is neither its index
nor its kind. -/
theorem actionError_passesOver (hinside : ReadsInside root ActionError.decode put)
    (hindex : own ≠ "index") (hkind : own ≠ "kind") : PassesOver root put own :=
  hinside.passesOver fun _ _ _ => ActionError.decode_widened hindex hkind

/-- Inside any value, a union bars a second member. -/
theorem union_barsSecond {type : UnionType} (hinside : ReadsInside root type.union.decode put) :
    BarsSecond root put := fun _ _ _ _ hsecond =>
  hinside.refused ⟨_, Registry.decode_of_refuses (.memberCount (length_widened hsecond))⟩

/-- Inside any value, a network bars a second member. -/
theorem network_barsSecond (hinside : ReadsInside root Network.read put) : BarsSecond root put :=
  fun _ _ _ _ hsecond => hinside.refused ⟨_, Network.read_object_of_length (length_widened hsecond)⟩

end ReadsInside

/-- Objects are read by the names of their members. Values that differ in the order of members are
read alike by every type, as equal values, where what is kept verbatim may differ in the order as
well. And whatever reader reads a whole value, and however deep an object is inside it: a member
that the record in its place does not declare makes no difference, or is refused if the record is
strict, as configurations are and no others; and a second member of a union or a network is
refused. -/
theorem members_by_name :
    (∀ type : UnionType, ByName type.Same type.union.decode ∧
      ByName type.Same type.union.schema.read) ∧
    (∀ type : RecordType, ByName type.Same type.schema.read) ∧
    ByName ActionError.Same ActionError.decode ∧
    (ByName Eq AccountId.schema.read ∧ ByName Eq PublicKey.schema.read ∧
      ByName Eq Signature.schema.read ∧ ByName Eq SecretKey.schema.read ∧
      ByName Eq Digest.schema.read ∧ ByName Eq Network.schema.read) ∧
    (∀ {ε α : Type} (root : Json → Except ε α) (put : Json → Json),
      (∀ {ρ τ : Type} (name : String) (fields : Fields τ) (row : Row ρ τ) (own : String),
        own ∉ fields.names →
          (ReadsInside root (Schema.record name fields row false).read put →
            PassesOver root put own) ∧
          (ReadsInside root (Schema.record name fields row true).read put → Bars root put own)) ∧
      (∀ own : String, own ≠ "index" → own ≠ "kind" → ReadsInside root ActionError.decode put →
        PassesOver root put own) ∧
      (∀ type : UnionType, ReadsInside root type.union.decode put → BarsSecond root put) ∧
      (ReadsInside root Network.read put → BarsSecond root put)) ∧
    (∀ type : RecordType, ∃ (τ : Type) (name : String) (fields : Fields τ)
      (row : Row type.Value τ), type.schema = .record name fields row type.strict) ∧
    (∀ own : String, own ∉ ClientConfig.fields.names → Bars ClientConfig.schema.read id own) ∧
    (∀ front back : List (String × Json),
      (Distinct (front ++ ("rpc", .null) :: back) → ∀ own : String, own ∉ RpcConfig.fields.names →
        Bars ClientConfig.schema.read (fun part => .object (front ++ ("rpc", part) :: back)) own) ∧
      (Distinct (front ++ ("signer", .null) :: back) → ∀ own : String,
        own ∉ SignerConfig.fields.names →
        Bars ClientConfig.schema.read (fun part => .object (front ++ ("signer", part) :: back))
          own)) := by
  refine ⟨?_, RecordType.schema_byName, ActionError.decode_byName, ?_, ?_,
    RecordType.schema_eq_record, ?_, ?_⟩
  · exact fun type => ⟨type.decode_byName, Tagged.schema_byName type.decode_byName⟩
  · exact ⟨Schema.byName, Schema.byName, Schema.byName, Schema.byName, Schema.byName,
      Schema.byName⟩
  · intro ε α root put
    refine ⟨fun name fields row own hown => ⟨fun hinside => ?_, fun hinside => ?_⟩,
      fun own hindex hkind hinside => ?_, fun type hinside => ?_, fun hinside => ?_⟩
    · exact hinside.record_passesOver hown
    · exact hinside.record_bars hown
    · exact hinside.actionError_passesOver hindex hkind
    · exact hinside.union_barsSecond
    · exact hinside.network_barsSecond
  · exact fun own hown => (ReadsInside.here ClientConfig.schema.read).record_bars hown
  · intro front back
    refine ⟨fun hdistinct own hown => ?_, fun hdistinct own hown => ?_⟩
    · exact (ClientConfig.readsInside_rpc hdistinct).record_bars hown
    · exact (ClientConfig.readsInside_signer hdistinct).record_bars hown

/-- The report of a missing account is read alike when its members are turned round and when more
of them come with the account, and it is not read with a second kind. A hint is no part of a
configuration. -/
theorem members_by_name_missing_account :
    let account : String × Json := ("account_id", .string "bob.near")
    let hint : String × Json := ("hint", .null)
    let failure (kind : Json) : Json :=
      .object [("ActionError", .object [("index", .null), ("kind", kind)])]
    let missing (context : Json) : Json := .object [("AccountDoesNotExist", context)]
    let report : Json := failure (missing (.object [account]))
    let turned : Json :=
      .object [("ActionError", .object [("kind", missing (.object [account])), ("index", .null)])]
    let error : TxExecutionError :=
      .actionError ⟨none, .accountDoesNotExist ⟨⟨"bob.near", by decide⟩⟩⟩
    SameOutcome TxExecutionError.Same (TxExecutionError.union.decode report)
        (TxExecutionError.union.decode turned) ∧
      (TxExecutionError.union.decode report = .ok error ∧
        TxExecutionError.union.decode (failure (missing (.object [account, hint]))) =
          .ok error) ∧
      Refused (TxExecutionError.union.decode
        (failure (.object [("AccountDoesNotExist", .object [account]), hint]))) ∧
      Refused (ClientConfig.schema.read (.object [("rpc", .object []), hint])) ∧
      Refused (ClientConfig.schema.read (.object [("rpc", .object [hint])])) ∧
      Refused (ClientConfig.schema.read (.object [("signer", .object [account, hint])])) := by
  intro account hint failure missing report turned error
  obtain ⟨horder, -, -, -, hadded, -, hconfig, hpart⟩ := members_by_name
  have hkind : ReadsInside TxExecutionError.union.decode ActionErrorKind.union.decode failure :=
    .deeper (.payload TxExecutionError.union TxExecutionError.Tag.actionError) <|
      .deeper (.nested TxExecutionError.Tag.actionError ActionError.decode
        TxExecutionError.actionError) <|
      .deeper (@ReadsPart.kind [("index", .null)] [] (by decide)) (.here _)
  have hcontext : ReadsInside ActionErrorKind.union.decode AccountContext.schema.read missing :=
    .deeper (.payload ActionErrorKind.union ActionErrorKind.Tag.accountDoesNotExist) <|
      .deeper (.structured ActionErrorKind.Tag.accountDoesNotExist AccountContext.schema
        ActionErrorKind.accountDoesNotExist) (.here _)
  have hreport : Reordered report turned := by
    have hmissing : Reordered (missing (.object [account])) (missing (.object [account])) :=
      .single _ (.single _ (.string _))
    exact .single _ (.object (by decide) (.swap _ _ _)
      (.cons (.value _ hmissing) (.cons (.value _ .null) .nil)))
  have hread : TxExecutionError.union.decode report = .ok error := rfl
  refine ⟨(horder .txExecutionError).1 hreport, ⟨hread, ?_⟩, ?_, ?_, ?_, ?_⟩
  · obtain ⟨hrecord, -⟩ := hadded TxExecutionError.union.decode fun part => failure (missing part)
    have hpasses := (hrecord _ _ _ "hint" (by decide)).1 (hkind.trans hcontext)
    exact (hpasses [account] [] .null).eq_ok_iff.mp hread
  · obtain ⟨-, -, hunion, -⟩ := hadded TxExecutionError.union.decode failure
    exact hunion .actionErrorKind hkind [("AccountDoesNotExist", .object [account])] [] "hint"
      .null (List.cons_ne_nil _ _)
  · exact hconfig "hint" (by decide) [("rpc", .object [])] [] .null
  · exact (hpart [] []).1 (by decide) "hint" (by decide) [] [] .null
  · exact (hpart [] []).2 (by decide) "hint" (by decide) [account] [] .null

end Json

end LedgerWire
