import LedgerWire.Execution.Status
import LedgerWire.Proofs.Json.Amount
import LedgerWire.Proofs.Text.Sextets
import LedgerWire.Proofs.Transaction.Signing

/-!
# Byte payloads as texts

Contract code, the arguments of a call, a returned value and the bytes of a signed transaction
travel as base64 text. Whoever reads such a text gets the bytes that it was written for, takes the
same text with less padding for the same bytes, and refuses every other text, each reader in its
own kind of failure. So two buffers never share a text.
-/

namespace LedgerWire

open Base64 (Malformed Spells Standard)

/-- The law of a reader of base64 text, which makes a value of the bytes and wraps a fault. -/
structure Base64.Exact {β ε : Type} (read : String → Except ε β) (make : Bytes → β)
    (refuse : Base64.Fault → ε) : Prop where
  read_encode (bytes : Bytes) : read (encode bytes) = .ok (make bytes)
  read_eq_ok_iff (text : String) (bytes : Bytes) : read text = .ok (make bytes) ↔ Spells text bytes
  refused_iff (text : String) : (∃ fault, read text = .error (refuse fault)) ↔ Malformed text
  read_or_refused (text : String) :
    (∃ bytes, read text = .ok (make bytes)) ∨ ∃ fault, read text = .error (refuse fault)
  eq_of_read {first second : String} {bytes other : Bytes} (hfirst : read first = .ok (make bytes))
    (hsecond : read second = .ok (make other)) (hne : bytes ≠ other) : first ≠ second

/-- A reader that is made of the decoder obeys the law. -/
theorem Base64.exact_of_eq {β ε : Type} {read : String → Except ε β} {make : Bytes → β}
    {refuse : Base64.Fault → ε} (hmake : Function.Injective make)
    (hread : ∀ text, read text = ((decode text).mapError refuse).map make) :
    Base64.Exact read make refuse := by
  have hok (text : String) (bytes : Bytes) : read text = .ok (make bytes) ↔ Spells text bytes := by
    simp only [hread, Except.map_eq_ok_iff, Except.mapError_eq_ok_iff, decode_eq_ok_iff]
    constructor
    · rintro ⟨_, hspells, heq⟩
      rwa [← hmake heq]
    · exact fun hspells => ⟨_, hspells, rfl⟩
  refine ⟨fun bytes => ?_, hok, fun text => ?_, fun text => ?_, ?_⟩
  · rw [hread, decode_encode, Except.mapError_ok, Except.map_ok]
  · rw [← exists_decode_eq_error_iff, hread]
    cases decode text <;> simp
  · rw [hread]
    cases decode text with
    | ok bytes => exact .inl ⟨bytes, rfl⟩
    | error fault => exact .inr ⟨fault, rfl⟩
  · rintro first second bytes other hfirst hsecond hne rfl
    rw [hok] at hfirst hsecond
    exact hne (hfirst.unique hsecond)

/-! ### Readers of payloads -/

/-- Decoding itself obeys the law, and makes the bytes. -/
theorem Base64.exact_decode : Base64.Exact decode id id := by
  refine exact_of_eq Function.injective_id fun text => ?_
  cases decode text <;> rfl

/-- The schema of base64 obeys the law, and wraps a fault in its words. -/
theorem Schema.base64_exact :
    Base64.Exact (fun text => base64.read (.string text)) id
      fun fault => .refused fault.message := by
  refine Base64.exact_of_eq Function.injective_id fun text => ?_
  simp only [base64, Schema.text, Except.ok_bind]
  cases Base64.decode text <;> rfl

/-- Bytes are read from the texts that spell them and from no other value. -/
theorem Schema.base64_read_eq_ok_iff {json : Json} {bytes : Bytes} :
    base64.read json = .ok bytes ↔ ∃ text, json = .string text ∧ Spells text bytes := by
  cases json with
  | string text => simp [← base64_exact.read_eq_ok_iff text bytes]
  | _ => exact iff_of_false (fun h => by cases h) fun ⟨text, h, _⟩ => by cases h

namespace FinalExecutionStatus

/-- A returned value obeys the law, and wraps a fault as a wrong format. -/
theorem returned_exact :
    Base64.Exact (fun text => (successValue text).returned) some
      fun fault => .format (.returnedValue fault) := by
  refine Base64.exact_of_eq (Option.some_injective _) fun text => ?_
  simp only [returned]
  cases Base64.decode text <;> rfl

/-- Nothing is returned exactly with the statuses that are no value. -/
theorem returned_eq_none_iff {status : FinalExecutionStatus} :
    status.returned = .ok none ↔ ∀ text, status ≠ .successValue text := by
  cases status with
  | successValue text =>
    refine iff_of_false (fun h => ?_) fun h => h text rfl
    rcases returned_exact.read_or_refused text with ⟨bytes, hread⟩ | ⟨fault, hread⟩
    · cases h.symm.trans hread
    · cases h.symm.trans hread
  | _ => exact iff_of_true rfl fun text => by simp

end FinalExecutionStatus

/-- Bytes that have to be there are read from the member. -/
theorem Fields.spells_of_readMember {name : String} {member : Option Json} {bytes : Bytes}
    (h : Fields.readMember name Schema.base64 none member = .ok bytes) :
    ∃ text, member = some (.string text) ∧ Spells text bytes := by
  cases member with
  | none => cases h
  | some json =>
    obtain ⟨text, rfl, hspells⟩ := Schema.base64_read_eq_ok_iff.mp h
    exact ⟨text, rfl, hspells⟩

/-- The code of a contract is what its member spells. -/
theorem DeployContractAction.spells_of_schema_read {members : List (String × Json)}
    {action : DeployContractAction} (h : schema.read (.object members) = .ok action) :
    ∃ text, members.lookup "code" = some (.string text) ∧ Spells text action.code :=
  Fields.spells_of_readMember (Schema.first_of_record_read h)

/-- The arguments of a call are what their member spells. -/
theorem FunctionCallAction.spells_of_schema_read {members : List (String × Json)}
    {action : FunctionCallAction} (h : schema.read (.object members) = .ok action) :
    ∃ text, members.lookup "args" = some (.string text) ∧ Spells text action.args := by
  obtain ⟨-, hothers⟩ := Fields.readMember_of_fill (Schema.fill_of_record_read h)
  exact Fields.spells_of_readMember (Fields.readMember_of_fill hothers).1

/-- Byte payloads have one text up to padding. A buffer is written as its standard text, and every
reader gives it back from that text and from what is left of it without some of the padding. A text
is refused by each reader in its own way exactly when it is malformed, so no text stands for two
buffers. Code, arguments and signed transactions are written so and read so, and nothing is
returned with a status exactly when the status is no value. -/
theorem payloads_exact :
    (∀ (bytes : Bytes) (text : String), Base64.encode bytes = text ↔ Standard text bytes) ∧
    Base64.Exact Base64.decode id id ∧
    Base64.Exact (fun text => Schema.base64.read (.string text)) id
      (fun fault => .refused fault.message) ∧
    Base64.Exact (fun text => (FinalExecutionStatus.successValue text).returned) some
      (fun fault => .format (.returnedValue fault)) ∧
    (∀ (json : Json) (bytes : Bytes), Schema.base64.read json = .ok bytes ↔
      ∃ text, json = .string text ∧ Spells text bytes) ∧
    (∀ bytes : Bytes, Schema.base64.write bytes = .string (Base64.encode bytes)) ∧
    (∀ action : DeployContractAction, DeployContractAction.schema.Restores action ∧
      (DeployContractAction.schema.write action).get? "code" =
        some (.string (Base64.encode action.code))) ∧
    (∀ members action, DeployContractAction.schema.read (.object members) = .ok action →
      ∃ text, members.lookup "code" = some (.string text) ∧ Spells text action.code) ∧
    (∀ action : FunctionCallAction, FunctionCallAction.schema.Restores action ∧
      (FunctionCallAction.schema.write action).get? "args" =
        some (.string (Base64.encode action.args))) ∧
    (∀ members action, FunctionCallAction.schema.read (.object members) = .ok action →
      ∃ text, members.lookup "args" = some (.string text) ∧ Spells text action.args) ∧
    (∀ (signed : SignedTransaction) (bytes : Bytes), Wire.encode signed = .ok bytes →
      signed.base64 = .ok (Base64.encode bytes)) ∧
    ∀ status : FinalExecutionStatus,
      status.returned = .ok none ↔ ∀ text, status ≠ .successValue text := by
  refine ⟨fun bytes text => Base64.encode_eq_iff, Base64.exact_decode, Schema.base64_exact,
    FinalExecutionStatus.returned_exact, fun json bytes => Schema.base64_read_eq_ok_iff,
    fun bytes => rfl, fun action => ⟨Schema.restores action, rfl⟩,
    fun members action => DeployContractAction.spells_of_schema_read,
    fun action => ⟨Schema.restores action, rfl⟩,
    fun members action => FunctionCallAction.spells_of_schema_read,
    fun signed bytes hencode => ?_, fun status => FinalExecutionStatus.returned_eq_none_iff⟩
  rw [SignedTransaction.base64, hencode, Except.map_ok]

/-- Two bytes that lack a character of padding are read without it, as code, as arguments and as a
returned value. A padding character in between and bits behind the last byte are refused. -/
theorem payloads_exact_braces :
    let bytes : Bytes := [0x7B, 0x7D]
    let code : List (String × Json) := [("code", .string "e30")]
    let call : List (String × Json) := [("method_name", .string "init"), ("args", .string "e30="),
      ("gas", .ofUInt64 1), ("deposit", .string "0")]
    let signed : SignedTransaction := ⟨Transaction.sample, ⟨.ed25519, .zero 64⟩⟩
    Base64.encode bytes = "e30=" ∧ Spells "e30" bytes ∧
      (FinalExecutionStatus.successValue "e30").returned = .ok (some bytes) ∧
      (∃ fault : Base64.Fault,
        Schema.base64.read (.string "e3=0") = .error (.refused fault.message)) ∧
      (∃ fault, (FinalExecutionStatus.successValue "e31=").returned =
        .error (.format (.returnedValue fault))) ∧
      "e30=" ≠ Base64.encode [0x7B, 0x7E] ∧
      DeployContractAction.schema.read (.object code) = .ok ⟨bytes⟩ ∧
      (∃ text, code.lookup "code" = some (.string text) ∧ Spells text bytes) ∧
      (∃ action, FunctionCallAction.schema.read (.object call) = .ok action ∧
        ∃ text, call.lookup "args" = some (.string text) ∧ Spells text action.args) ∧
      ∃ bytes, Wire.encode signed = .ok bytes ∧ signed.base64 = .ok (Base64.encode bytes) := by
  intro bytes code call signed
  obtain ⟨hstandard, hdecode, hschema, hreturned, -, -, -, hcode, -, hargs, hsigned, -⟩ :=
    payloads_exact
  have hwritten : Base64.encode bytes = "e30=" := by decide
  have hspells : Spells "e30" bytes := ⟨1, (hstandard bytes _).mp (by decide)⟩
  have hmisplaced : Malformed "e3=0" := by
    refine @Malformed.misplaced _ ['e', '3'] ['0'] rfl (.inr ⟨'0', ?_, by decide⟩)
    exact List.mem_cons_self
  have hleftover : Malformed "e31=" := by
    refine @Malformed.leftover _ ['e', '3'] ['='] 53 (by decide) (by decide) ?_ (.inr ?_)
    · simp
    · decide
  have hother : Base64.decode (Base64.encode [0x7B, 0x7E]) = .ok [0x7B, 0x7E] :=
    hdecode.read_encode _
  have hread : DeployContractAction.schema.read (.object code) = .ok ⟨bytes⟩ := rfl
  obtain ⟨encoded, hencode⟩ := Transaction.sample_short.exists_encode
  have hwhole := signed.encode_eq hencode
  refine ⟨hwritten, hspells, (hreturned.read_eq_ok_iff _ _).mpr hspells,
    (hschema.refused_iff _).mpr hmisplaced, (hreturned.refused_iff _).mpr hleftover, ?_, hread,
    hcode _ _ hread, ⟨_, rfl, hargs _ _ rfl⟩, _, hwhole, hsigned _ _ hwhole⟩
  exact hdecode.eq_of_read (hwritten ▸ hdecode.read_encode bytes) hother (by decide)

end LedgerWire
