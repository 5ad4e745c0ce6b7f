import LedgerWire.Proofs.CommandLine.Encode
import LedgerWire.Proofs.Rpc.Outcome

/-!
# A failure is shown as a call meets it

A file may hold a whole reply or the envelope of a failure alone. Classifying the file looks for
the envelope in its own way, on any value and not on objects alone, and still finds the failure
that a call with the same body ends with. An envelope is shown in the same way alone and as the
failure of a reply.
-/

namespace LedgerWire

namespace Invocation

/-- The invocation classifies a file that holds the value, under a configuration that is read. -/
def Classifies (invocation : Invocation) (files : Files) (value : Json) : Prop :=
  ∃ path text config, invocation.command = .classify path ∧
    invocation.readConfig files = .ok config ∧ files path = .ok text ∧
    Json.ofText? text = some value

variable {invocation : Invocation} {files : Files} {network : Post → Reply} {value envelope : Json}

/-- What is shown of a failure. -/
def shows (failure : RpcFailure) : Report := { printed := [failure.display, failure.shown.block] }

/-- What is shown is the failure of the envelope that is found, or of the whole value if none is. -/
theorem Classifies.run_eq (h : invocation.Classifies files value) :
    invocation.run files network =
      shows (.ofEnvelope ((value.get? "error").getD value)) := by
  obtain ⟨path, text, config, hcommand, hconfig, hfile, htext⟩ := h
  have hread : Command.readJson files path = .ok value :=
    Command.readJson_eq_ok_iff.mpr ⟨text, hfile, htext⟩
  rw [run, hconfig]
  simp only [hcommand, Command.runClassify, hread]
  rfl

/-- The failure that is reported in a reply is the one that is shown. -/
theorem Classifies.run_reply (h : invocation.Classifies files value)
    (hreported : value.get? "error" = some envelope) :
    Reply.resultOf value = .error (.rpc (.ofEnvelope envelope)) ∧
      invocation.run files network = shows (.ofEnvelope envelope) := by
  obtain ⟨members, rfl, hlookup⟩ := Json.get?_eq_some_iff.mp hreported
  refine ⟨Reply.resultOf_eq_error hlookup, ?_⟩
  rw [h.run_eq, hreported, Option.getD_some]

/-- An envelope alone is shown. -/
theorem Classifies.run_envelope (h : invocation.Classifies files envelope)
    (hbare : envelope.get? "error" = none) :
    invocation.run files network = shows (.ofEnvelope envelope) := by
  rw [h.run_eq, hbare, Option.getD_none]

end Invocation

open Invocation (Classifies)

/-- A call with a body ends in one of five ways, which are tried in one order; nothing but the
failure and the result in the body plays a part. So every value comes back from a reply without
failure that holds it as its result. Classifying a file with a reply that reports a failure shows
the failure that the reply ends a call with, and an envelope is shown alone as it is in a reply. -/
theorem call_ends_as_classified :
    (∀ (α : Type) (query : Query α) (body : Json) (outcome : Except ClientError α),
      Reply.answer query (.body body) = outcome ↔ Reply.Ends query body outcome) ∧
    (∀ (client : Client) (network : Post → Reply) (operation : Operation) (query : Query Answer)
      (body : Json), operation.query = .ok query →
      network (client.post query).1 = .body body →
      Reply.Ends query body (client.perform network operation).1.outcome) ∧
    (∀ (client : Client) (network : Post → Reply) (operation : Operation), operation.Encodes →
      ∃ method params, operation.Asks method params ∧
        ∀ body, network ⟨client.url, client.timeout, ⟨client.nextId, method, params⟩⟩ =
            .body body →
          Reply.Ends ⟨method, params, operation.reader⟩ body
            (client.perform network operation).1.outcome) ∧
    (∀ (α : Type) (query : Query α) (members others : List (String × Json)),
      members.lookup "error" = others.lookup "error" →
      members.lookup "result" = others.lookup "result" →
      Reply.answer query (.body (.object members)) =
        Reply.answer query (.body (.object others))) ∧
    (∀ (type : RecordType) (query : Query type.Value) (value : type.Value)
      (members : List (String × Json)), query.result = type.schema.read → type.Usable value →
      members.lookup "error" = none →
      members.lookup "result" = some (type.schema.write value) →
      Reply.answer query (.body (.object members)) = .ok value) ∧
    (∀ (type : UnionType) (query : Query type.Value) (value : type.Value)
      (members : List (String × Json)), query.result = type.union.schema.read →
      members.lookup "error" = none →
      members.lookup "result" = some (type.union.schema.write value) →
      Reply.answer query (.body (.object members)) = .ok value) ∧
    (∀ (view : BlockView) (members : List (String × Json)), members.lookup "error" = none →
      members.lookup "result" = some (BlockView.schema.write view) →
      Reply.answer Query.blockHash (.body (.object members)) = .ok view.header.hash) ∧
    (∀ (method : String) (params result : Json) (members : List (String × Json)),
      members.lookup "error" = none → members.lookup "result" = some result →
      Reply.answer (.raw method params) (.body (.object members)) = .ok result) ∧
    (∀ (invocation : Invocation) (files : Files) (network : Post → Reply) (body envelope : Json),
      invocation.Classifies files body → body.get? "error" = some envelope →
      ∃ failure, Reply.resultOf body = .error (.rpc failure) ∧
        invocation.run files network = { printed := [failure.display, failure.shown.block] }) ∧
    (∀ (invocation other : Invocation) (files others : Files) (network : Post → Reply)
      (envelope : Json), envelope.get? "error" = none → invocation.Classifies files envelope →
      other.Classifies others (.object [("error", envelope)]) →
      invocation.run files network = other.run others network) := by
  refine ⟨?_, ?_, ?_, ?_, ?_, ?_, ?_, ?_, ?_, ?_⟩
  · intro α query body outcome
    exact Reply.answer_eq_iff
  · intro client network operation query body hquery hbody
    obtain ⟨hasks, hresult⟩ := Operation.query_eq_ok_iff.mp hquery
    have hends : Reply.Ends ⟨query.method, query.params, operation.reader⟩ body
        (client.perform network operation).1.outcome := Reply.perform_ends hasks hbody
    rw [← hresult] at hends
    exact hends
  · intro client network operation hencodes
    obtain ⟨method, params, hasks⟩ := Operation.exists_asks_iff.mpr hencodes
    exact ⟨method, params, hasks, fun body hbody => Reply.perform_ends hasks hbody⟩
  · intro α query members others herror hresult
    exact Reply.answer_congr herror hresult
  · intro type query value members hschema husable hunreported hpresent
    exact Reply.answer_restored hschema (type.restores value husable) hunreported hpresent
  · intro type query value members hschema hunreported hpresent
    have hfaithful : type.union.schema.Faithful := Tagged.schema_faithful type.restores
    exact Reply.answer_restored hschema (hfaithful.restores value) hunreported hpresent
  · intro view members hunreported hpresent
    exact Reply.answer_blockHash hunreported hpresent
  · intro method params result members hunreported hpresent
    have haccepted : (Query.raw method params).result result = .ok result := rfl
    exact (Reply.Ends.read hunreported hpresent haccepted).answer_eq
  · intro invocation files network body envelope hbody hreported
    obtain ⟨hresult, hrun⟩ := hbody.run_reply hreported
    exact ⟨_, hresult, hrun⟩
  · intro invocation other files others network envelope hbare halone hwrapped
    have hshown : other.run others network = Invocation.shows (.ofEnvelope envelope) :=
      (hwrapped.run_reply rfl).2
    rw [halone.run_envelope hbare, hshown]

/-- Files with a reply that reports a failure beside a result, the text of that failure alone, and
the same text as a failure. -/
def classifiedFiles : Files
  | "reply.json" => .ok "\x7b\"result\":null,\"error\":\"busy\"\x7d"
  | "alone.json" => .ok "\"busy\""
  | "wrapped.json" => .ok "\x7b\"error\":\"busy\"\x7d"
  | _ => .error .notFound

/-- A view of a key comes back from a reply that holds it, also to a client that performs the
operation, and from no reply that reports a failure as well. A failure is shown as it is from each
of the files. -/
theorem call_ends_as_classified_busy :
    let view : AccessKeyView := ⟨7, .fullAccess, 100, .zero⟩
    let result : String × Json := ("result", AccessKeyView.schema.write view)
    let query : Query AccessKeyView :=
      .accessKey Transaction.sample.signerId Transaction.sample.publicKey
    Reply.answer query (.body (.object [("id", .null), result])) = .ok view ∧
    ((Client.ofUrl "http://node").perform (fun _ => .body (.object [("id", .null), result]))
        (.accessKey Transaction.sample.signerId Transaction.sample.publicKey)).1.outcome =
      .ok (.accessKey view) ∧
    Reply.answer query (.body (.object [result, ("error", .null)])) =
      .error (.rpc (.unclassified none none .null .unnamed)) ∧
    Reply.answer query (.body (.array [])) = .error (.response .notAnObject) ∧
    Reply.answer query (.body (.object [("id", .null)])) = .error (.response .empty) ∧
    ∀ network : Post → Reply,
      (∃ failure, Reply.resultOf (.object [("result", .null), ("error", .string "busy")]) =
          .error (.rpc failure) ∧
        (⟨none, .classify "reply.json"⟩ : Invocation).run classifiedFiles network =
          { printed := [failure.display, failure.shown.block] }) ∧
      (⟨none, .classify "alone.json"⟩ : Invocation).run classifiedFiles network =
        (⟨none, .classify "wrapped.json"⟩ : Invocation).run classifiedFiles network := by
  intro view result query
  obtain ⟨hends, -, hperform, -, hrecord, -, -, -, hreply, hsame⟩ := call_ends_as_classified
  have hreported : Reply.Ends query (.object [result, ("error", .null)])
      (.error (.rpc (.ofEnvelope .null))) := .failure rfl
  have hencodes : (Operation.accessKey Transaction.sample.signerId
      Transaction.sample.publicKey).Encodes :=
    Operation.exists_asks_iff.mp ⟨_, _, .accessKey _ _⟩
  obtain ⟨method, params, -, hended⟩ := hperform (.ofUrl "http://node")
    (fun _ => .body (.object [("id", .null), result])) _ hencodes
  have hread : Reply.Ends ⟨method, params, (Operation.accessKey Transaction.sample.signerId
      Transaction.sample.publicKey).reader⟩ (.object [("id", .null), result])
      (.ok (Answer.accessKey view)) := by
    refine .read rfl rfl ?_
    have hrestores := RecordType.restores .accessKeyView view trivial
    exact congrArg (Except.map Answer.accessKey) hrestores
  refine ⟨hrecord .accessKeyView query view _ rfl trivial rfl rfl,
    (hended _ rfl).answer_eq.symm.trans hread.answer_eq, (hends _ query _ _).mpr hreported,
    (hends _ query _ _).mpr (.notObject ?_),
    (hends _ query _ _).mpr (.empty rfl rfl), ?_⟩
  · intro members hmembers
    cases hmembers
  · intro network
    have hwhole : (⟨none, .classify "reply.json"⟩ : Invocation).Classifies classifiedFiles
        (.object [("result", .null), ("error", .string "busy")]) :=
      ⟨_, _, .standard, rfl, rfl, rfl, by decide +kernel⟩
    have halone : (⟨none, .classify "alone.json"⟩ : Invocation).Classifies classifiedFiles
        (.string "busy") := ⟨_, _, .standard, rfl, rfl, rfl, by decide +kernel⟩
    have hwrapped : (⟨none, .classify "wrapped.json"⟩ : Invocation).Classifies classifiedFiles
        (.object [("error", .string "busy")]) :=
      ⟨_, _, .standard, rfl, rfl, rfl, by decide +kernel⟩
    exact ⟨hreply _ _ network _ _ hwhole rfl, hsame _ _ _ _ network _ rfl halone hwrapped⟩

end LedgerWire
