import LedgerWire.Proofs.Json.RoundTrip
import LedgerWire.Proofs.Rpc.Operation
import LedgerWire.Proofs.Rpc.Recovery

/-!
# How a call ends

A body that came back is looked at in one order: whether it is an object, whether it reports a
failure, whether it has a result, and whether the result is of the expected type. The first of
these that decides the call ends it, and no other member of the body is looked at.
-/

namespace LedgerWire

namespace Reply

variable {α : Type} {query : Query α} {members : List (String × Json)}

/-- How a body ends a query. -/
inductive Ends (query : Query α) : Json → Except ClientError α → Prop
  | notObject {body : Json} (other : ∀ members, body ≠ .object members) :
      Ends query body (.error (.response .notAnObject))
  | failure {members : List (String × Json)} {envelope : Json}
      (reported : members.lookup "error" = some envelope) :
      Ends query (.object members) (.error (.rpc (.ofEnvelope envelope)))
  | empty {members : List (String × Json)} (unreported : members.lookup "error" = none)
      (absent : members.lookup "result" = none) :
      Ends query (.object members) (.error (.response .empty))
  | unread {members : List (String × Json)} {result : Json} {error : Json.ReadError}
      (unreported : members.lookup "error" = none)
      (present : members.lookup "result" = some result)
      (refused : query.result result = .error error) :
      Ends query (.object members) (.error (.decode error))
  | read {members : List (String × Json)} {result : Json} {value : α}
      (unreported : members.lookup "error" = none)
      (present : members.lookup "result" = some result)
      (accepted : query.result result = .ok value) :
      Ends query (.object members) (.ok value)

/-! ### The result of a body -/

/-- What is no object has no result. -/
theorem resultOf_notObject {body : Json} (hother : ∀ members, body ≠ .object members) :
    resultOf body = .error (.response .notAnObject) := by
  cases body with
  | object members => exact absurd rfl (hother members)
  | _ => rfl

/-- An object with neither a failure nor a result has no result. -/
theorem resultOf_empty (hunreported : members.lookup "error" = none)
    (habsent : members.lookup "result" = none) :
    resultOf (.object members) = .error (.response .empty) := by
  simp only [resultOf, hunreported, habsent]

/-- An object without failure has the result that it holds. -/
theorem resultOf_present {result : Json} (hunreported : members.lookup "error" = none)
    (hpresent : members.lookup "result" = some result) :
    resultOf (.object members) = .ok result := by
  simp only [resultOf, hunreported, hpresent]

/-- A body without result ends a query with what is wrong with it. -/
theorem answer_of_resultOf_eq_error {body : Json} {error : ClientError}
    (hresult : resultOf body = .error error) : answer query (.body body) = .error error := by
  rw [answer, hresult, Except.error_bind]

/-- The result of a body is read as the query reads it. -/
theorem answer_of_resultOf_eq_ok {body result : Json} (hresult : resultOf body = .ok result) :
    answer query (.body body) = (query.result result).mapError .decode := by
  rw [answer, hresult, Except.ok_bind]

/-! ### The end of a call -/

/-- The way in which a body ends a query is the answer. -/
theorem Ends.answer_eq {body : Json} {outcome : Except ClientError α}
    (hends : Ends query body outcome) : answer query (.body body) = outcome := by
  cases hends with
  | notObject other => exact answer_of_resultOf_eq_error (resultOf_notObject other)
  | failure reported => exact answer_of_resultOf_eq_error (resultOf_eq_error reported)
  | empty unreported absent =>
    exact answer_of_resultOf_eq_error (resultOf_empty unreported absent)
  | unread unreported present refused =>
    rw [answer_of_resultOf_eq_ok (resultOf_present unreported present), refused]
    rfl
  | read unreported present accepted =>
    rw [answer_of_resultOf_eq_ok (resultOf_present unreported present), accepted]
    rfl

/-- Every body ends the call in one of the ways. -/
theorem exists_ends (query : Query α) (body : Json) : ∃ outcome, Ends query body outcome := by
  by_cases hobject : ∃ members, body = .object members
  · obtain ⟨members, rfl⟩ := hobject
    cases hreported : members.lookup "error" with
    | some envelope => exact ⟨_, .failure hreported⟩
    | none =>
      cases hpresent : members.lookup "result" with
      | none => exact ⟨_, .empty hreported hpresent⟩
      | some result =>
        cases hread : query.result result with
        | error error => exact ⟨_, .unread hreported hpresent hread⟩
        | ok value => exact ⟨_, .read hreported hpresent hread⟩
  · exact ⟨_, .notObject (not_exists.mp hobject)⟩

/-- An answer is that of a body just when the body ends the query so. -/
theorem answer_eq_iff {body : Json} {outcome : Except ClientError α} :
    answer query (.body body) = outcome ↔ Ends query body outcome := by
  constructor
  · rintro rfl
    obtain ⟨outcome, hends⟩ := exists_ends query body
    rw [hends.answer_eq]
    exact hends
  · exact Ends.answer_eq

/-- Two objects with the same failure and the same result end a call alike. -/
theorem answer_congr {others : List (String × Json)}
    (herror : members.lookup "error" = others.lookup "error")
    (hresult : members.lookup "result" = others.lookup "result") :
    answer query (.body (.object members)) = answer query (.body (.object others)) := by
  have hsame : resultOf (.object members) = resultOf (.object others) := by
    simp only [resultOf, herror, hresult]
  simp only [answer, hsame]

/-- A value comes back from a reply that holds it in JSON as its result. -/
theorem answer_restored {schema : Schema α} {value : α} (hschema : query.result = schema.read)
    (hrestores : schema.Restores value) (hunreported : members.lookup "error" = none)
    (hpresent : members.lookup "result" = some (schema.write value)) :
    answer query (.body (.object members)) = .ok value := by
  have haccepted : query.result (schema.write value) = .ok value := by
    rw [hschema]
    exact hrestores
  exact (Ends.read hunreported hpresent haccepted).answer_eq

/-- The hash of a block comes back from a reply that holds the block. -/
theorem answer_blockHash {view : BlockView} (hunreported : members.lookup "error" = none)
    (hpresent : members.lookup "result" = some (BlockView.schema.write view)) :
    answer Query.blockHash (.body (.object members)) = .ok view.header.hash := by
  have haccepted : Query.blockHash.result (BlockView.schema.write view) = .ok view.header.hash := by
    have hview : BlockView.schema.read (BlockView.schema.write view) = .ok view :=
      Schema.restores view
    show (BlockView.schema.read (BlockView.schema.write view)).map _ = _
    rw [hview, Except.map_ok]
  exact (Ends.read hunreported hpresent haccepted).answer_eq

/-- An operation that asks something ends as its reply does. -/
theorem perform_ends {client : Client} {network : Post → Reply} {operation : Operation}
    {method : String} {params body : Json} (hasks : operation.Asks method params)
    (hbody : network ⟨client.url, client.timeout, ⟨client.nextId, method, params⟩⟩ =
      .body body) :
    Ends ⟨method, params, operation.reader⟩ body (client.perform network operation).1.outcome := by
  rw [Operation.perform_eq hasks, hbody]
  exact answer_eq_iff.mp rfl

end Reply

end LedgerWire
