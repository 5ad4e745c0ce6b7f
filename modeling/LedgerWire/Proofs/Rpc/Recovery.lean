import LedgerWire.Proofs.Json.Execution
import LedgerWire.Proofs.Rpc.Classification
import LedgerWire.Rpc.Reply

/-!
# Execution errors are recovered from replies

A node reports a rejected transaction with the whole execution error, under the cause or beside
it, plain or wrapped in an object under the name of the family. An execution error is an object
with one member that is never named like the family, and it is never empty; so a reader that tells
the forms apart by that name and by emptiness recovers every error from each of them.
-/

namespace LedgerWire

/-- Every execution error is encoded as an object with one member, whose name is not that of the
family. -/
theorem TxExecutionError.encode_eq_object (error : TxExecutionError) :
    ∃ name payload, union.encode error = .object [(name, payload)] ∧ name ≠ registry.family := by
  cases error with
  | actionError error => exact ⟨"ActionError", _, rfl, by decide⟩
  | invalidTxError error => exact ⟨"InvalidTxError", _, rfl, by decide⟩

namespace RpcFailure

/-- A detail that is the encoded error, or an object that holds it under the name of the
family. -/
def Gives (detail encoded : Json) : Prop :=
  detail = encoded ∨ detail.get? "TxExecutionError" = some encoded

/-- The report of a rejected transaction, with the encoded error in its details: under the cause,
or beside it when the cause tells nothing. -/
inductive Rejects (envelope encoded : Json) : Prop where
  | cause {detail : Json} (hnames : Names envelope "HANDLER_ERROR" "INVALID_TRANSACTION")
      (hdetail : Gives detail encoded) (hinfo : causeMember? envelope "info" = some detail)
  | beside {detail : Json} (hnames : Names envelope "HANDLER_ERROR" "INVALID_TRANSACTION")
      (hdetail : Gives detail encoded) (hinfo : ∀ info ∈ causeMember? envelope "info", Empty info)
      (hdata : envelope.get? "data" = some detail)

variable {error : TxExecutionError} {detail : Json}

/-- A detail that gives an execution error is not empty. -/
theorem Gives.not_empty (h : Gives detail (TxExecutionError.union.encode error)) :
    ¬Empty detail := by
  obtain ⟨name, payload, hencode, -⟩ := TxExecutionError.encode_eq_object error
  rcases h with rfl | hmember
  · simp [Empty, hencode]
  · rintro (rfl | rfl)
    · cases hmember
    · cases hmember

/-- A detail that gives an execution error holds it, wrapped or not. An error that is not wrapped
has no member of the name that would be unwrapped. -/
theorem Gives.holds (h : Gives detail (TxExecutionError.union.encode error)) :
    Holds detail (.invalidTransaction error) := by
  have hfound : (detail.get? "TxExecutionError").getD detail =
      TxExecutionError.union.encode error := by
    rcases h with rfl | hmember
    · obtain ⟨name, payload, hencode, hname⟩ := TxExecutionError.encode_eq_object error
      have hlookup : List.lookup "TxExecutionError" [(name, payload)] = none := by
        rw [List.lookup_eq_none_iff, List.forall_mem_singleton]
        exact bne_iff_ne.mpr hname.symm
      rw [hencode, Json.get?, hlookup, Option.getD_none]
    · rw [hmember, Option.getD_some]
  show TxExecutionError.union.decode _ = .ok error
  rw [hfound]
  exact Tagged.decode_encode (TxExecutionError.restores error)

/-- The details of a report that rejects a transaction are looked for where they are. -/
theorem Rejects.isSource {envelope : Json}
    (h : Rejects envelope (TxExecutionError.union.encode error)) :
    ∃ detail, IsSource envelope detail ∧ Gives detail (TxExecutionError.union.encode error) ∧
      Names envelope "HANDLER_ERROR" "INVALID_TRANSACTION" := by
  cases h with
  | cause hnames hdetail hinfo =>
    exact ⟨_, .inl ⟨hinfo, hdetail.not_empty⟩, hdetail, hnames⟩
  | beside hnames hdetail hinfo hdata =>
    exact ⟨_, .inr ⟨hinfo, by rw [hdata, Option.getD_some]⟩, hdetail, hnames⟩

/-- A report that rejects a transaction is read as the execution error in it. -/
theorem Rejects.ofEnvelope_eq {envelope : Json}
    (h : Rejects envelope (TxExecutionError.union.encode error)) :
    ofEnvelope envelope = .invalidTransaction error := by
  obtain ⟨detail, hsource, hdetail, hnames⟩ := h.isSource
  have htyped : IsTyped (.invalidTransaction error) := ⟨by simp, by simp⟩
  exact (ofEnvelope_eq_typed_iff htyped).mpr ⟨_, _, detail, rfl, hnames, hsource, hdetail.holds⟩

end RpcFailure

open RpcFailure (Rejects)

/-- An envelope among the members of a reply is what the reply fails with, also beside a
result. -/
theorem Reply.resultOf_eq_error {members : List (String × Json)} {envelope : Json}
    (herror : members.lookup "error" = some envelope) :
    resultOf (.object members) = .error (.rpc (.ofEnvelope envelope)) := by
  simp only [resultOf, herror]

/-- Every execution error that a node reports is recovered: from its encoded form under the cause
or beside it, plain or wrapped, whatever else the report holds; and a reply with such a report
fails with that error, whatever else the reply holds and whatever was asked. -/
theorem Reply.recovers_execution_error (error : TxExecutionError) (envelope : Json)
    (hrejects : Rejects envelope (TxExecutionError.union.encode error)) :
    RpcFailure.ofEnvelope envelope = .invalidTransaction error ∧
      ∀ members : List (String × Json), members.lookup "error" = some envelope →
        resultOf (.object members) = .error (.rpc (.invalidTransaction error)) ∧
        ∀ {α : Type} (query : Query α), answer query (.body (.object members)) =
          .error (.rpc (.invalidTransaction error)) := by
  have hfailure := hrejects.ofEnvelope_eq
  refine ⟨hfailure, fun members herror => ?_⟩
  have hresult : resultOf (.object members) = .error (.rpc (.invalidTransaction error)) := by
    rw [resultOf_eq_error herror, hfailure]
  refine ⟨hresult, fun query => ?_⟩
  simp only [answer, hresult]
  rfl

/-- The report of a rejected transaction with the given members of its cause and beside it. -/
def RpcFailure.rejection (info beside : List (String × Json)) : Json :=
  .object ([("code", .null), ("name", .string "HANDLER_ERROR"),
    ("cause", .object (("name", .string "INVALID_TRANSACTION") :: info))] ++ beside)

/-- A report of a rejected transaction names the category and the cause of one. -/
theorem RpcFailure.rejection_names (info beside : List (String × Json)) :
    Names (rejection info beside) "HANDLER_ERROR" "INVALID_TRANSACTION" :=
  names_iff.mpr ⟨rfl, rfl⟩

/-- An expired action is recovered from each form of the report. -/
theorem Reply.recovers_execution_error_expired :
    let error : TxExecutionError := .actionError ⟨some 1, .delegateActionExpired⟩
    let encoded : Json := TxExecutionError.union.encode error
    let wrapped : Json := .object [("TxExecutionError", encoded)]
    let Recovered (envelope : Json) : Prop :=
      RpcFailure.ofEnvelope envelope = .invalidTransaction error ∧
        resultOf (.object [("result", .null), ("error", envelope)]) =
          .error (.rpc (.invalidTransaction error))
    Recovered (RpcFailure.rejection [("info", encoded)] []) ∧
      Recovered (RpcFailure.rejection [("info", wrapped)] [("data", .null)]) ∧
      Recovered (RpcFailure.rejection [] [("data", encoded)]) ∧
      Recovered (RpcFailure.rejection [("info", .null)] [("data", encoded)]) ∧
      Recovered (RpcFailure.rejection [("info", .object [])] [("data", wrapped)]) := by
  intro error encoded wrapped Recovered
  have hrecovered : ∀ {envelope}, Rejects envelope encoded → Recovered envelope := by
    intro envelope hrejects
    obtain ⟨hfailure, hreply⟩ := recovers_execution_error error envelope hrejects
    exact ⟨hfailure, (hreply _ rfl).1⟩
  have hnames := RpcFailure.rejection_names
  refine ⟨hrecovered (.cause (hnames _ _) (.inl rfl) rfl),
    hrecovered (.cause (hnames _ _) (.inr rfl) rfl),
    hrecovered (.beside (hnames _ _) (.inl rfl) nofun rfl),
    hrecovered (.beside (hnames _ _) (.inl rfl) ?_ rfl),
    hrecovered (.beside (hnames _ _) (.inr rfl) ?_ rfl)⟩
  · rintro _ ⟨⟩
    exact .inl rfl
  · rintro _ ⟨⟩
    exact .inr rfl

end LedgerWire
