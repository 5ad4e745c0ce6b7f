import LedgerWire.Json.Text
import LedgerWire.Rpc.Envelope
import LedgerWire.Rpc.Request

/-!
# Replies of a node

A reply carries a result or the envelope of a failure. A failure goes before a result, and no
other member of the reply plays any part.
-/

namespace LedgerWire

/-- What is wrong with the shape of a reply. -/
inductive ReplyFault where
  | notAnObject
  | empty
  deriving DecidableEq

/-- The wording of a malformed reply. -/
def ReplyFault.message : ReplyFault → String
  | .notAnObject => "response is not an object"
  | .empty => "response has neither result nor error"

/-- Why a call of a node gave no result. -/
inductive ClientError where
  /-- No reply came, or one that is not JSON. -/
  | transport
  /-- The node reported a failure. -/
  | rpc (failure : RpcFailure)
  /-- The argument of the call could not be encoded. -/
  | codec (error : CodecError)
  /-- The result is not of the expected type. -/
  | decode (error : Json.ReadError)
  /-- The reply has neither a result nor a failure. -/
  | response (fault : ReplyFault)
  deriving DecidableEq

/-- The wording of a failed call. What the HTTP library says of a response that did not come, or
that is not JSON, is not modelled: one of its texts stands for all of them. -/
def ClientError.message : ClientError → String
  | .transport => "transport error: error decoding response body"
  | .rpc failure => "rpc error: " ++ failure.display
  | .codec error => error.message
  | .decode error => "cannot decode result: " ++ error.message
  | .response fault => "malformed response: " ++ fault.message

/-- What came back from a node: a JSON value, or nothing that could be read as one. -/
inductive Reply where
  | body (value : Json)
  | unreadable
  deriving DecidableEq

namespace Reply

/-- The reply that a text is. -/
def ofText (text : String) : Reply :=
  match Json.ofText? text with
  | some value => .body value
  | none => .unreadable

/-- The result in the body of a reply. -/
def resultOf (body : Json) : Except ClientError Json :=
  match body with
  | .object members =>
    match members.lookup "error" with
    | some envelope => .error (.rpc (.ofEnvelope envelope))
    | none =>
      match members.lookup "result" with
      | some result => .ok result
      | none => .error (.response .empty)
  | _ => .error (.response .notAnObject)

/-- The result of a query in a reply. -/
def answer {α : Type} (query : Query α) : Reply → Except ClientError α
  | .unreadable => .error .transport
  | .body value => do
    let result ← resultOf value
    (query.result result).mapError .decode

end Reply

end LedgerWire
