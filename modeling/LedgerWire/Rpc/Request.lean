import LedgerWire.Execution.Outcome
import LedgerWire.Node.View

/-!
# Requests to a node

A query is a method, its parameters and the type of the result that is expected. Sent to a node
it becomes a request, which has a number as well.
-/

namespace LedgerWire

/-- What is asked of a node, and how its result is read. -/
structure Query (α : Type) where
  method : String
  params : Json
  result : Json → Except Json.ReadError α

/-- A numbered question to a node. -/
structure Request where
  id : UInt64
  method : String
  params : Json
  deriving DecidableEq

/-- The request as it is sent. -/
def Request.json (request : Request) : Json :=
  .object [("jsonrpc", .string "2.0"), ("id", .string (Decimal.write request.id.toNat)),
    ("method", .string request.method), ("params", request.params)]

namespace Query

/-- Any method, with its result kept as it is. -/
def raw (method : String) (params : Json) : Query Json := ⟨method, params, .ok⟩

/-- Looks up an access key of an account in the latest final state. -/
def accessKey (account : AccountId) (key : PublicKey) : Query AccessKeyView where
  method := "query"
  params := .object [("request_type", .string "view_access_key"), ("finality", .string "final"),
    ("account_id", .string account.text), ("public_key", .string key.text)]
  result := AccessKeyView.schema.read

/-- Looks up the digest of the latest final block, which a new transaction refers to. -/
def blockHash : Query Digest where
  method := "block"
  params := .object [("finality", .string "final")]
  result value := (BlockView.schema.read value).map (·.header.hash)

/-- Sends a signed transaction, given in base64, and waits for its outcome. -/
def commit (payload : String) : Query FinalExecutionOutcome where
  method := "broadcast_tx_commit"
  params := .array [.string payload]
  result := FinalExecutionOutcome.schema.read

/-- Looks up the outcome of a transaction of an account. -/
def status (transaction : Digest) (sender : AccountId) : Query FinalExecutionOutcome where
  method := "tx"
  params := .array [.string transaction.text, .string sender.text]
  result := FinalExecutionOutcome.schema.read

end Query

end LedgerWire
