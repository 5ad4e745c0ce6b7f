import LedgerWire.Config
import LedgerWire.Rpc.Program

/-!
# A client of a node

A client numbers its requests from zero on, one number for each request, whether or not a reply
comes. An operation sends its request to the address of the client. The state of a client is the
next number; the network is whatever turns what was sent into a reply.
-/

namespace LedgerWire

/-- A client of one node. -/
structure Client where
  url : String
  /-- How long a reply is waited for, in seconds, if there is a limit. -/
  timeout : Option UInt64
  nextId : UInt64
  deriving DecidableEq

/-- One request with the address it is sent to, and how long a reply is waited for. -/
structure Post where
  url : String
  timeout : Option UInt64
  request : Request
  deriving DecidableEq

/-- A call that the client offers. -/
inductive Operation where
  | call (method : String) (params : Json)
  | accessKey (account : AccountId) (key : PublicKey)
  | blockHash
  | commit (transaction : SignedTransaction)
  | status (transaction : Digest) (sender : AccountId)
  deriving DecidableEq

/-- The result of an operation. -/
inductive Answer where
  | json (value : Json)
  | accessKey (view : AccessKeyView)
  | digest (value : Digest)
  | outcome (value : FinalExecutionOutcome)
  deriving DecidableEq

/-- A result in JSON. -/
def Answer.toJson : Answer → Json
  | .json value => value
  | .accessKey view => AccessKeyView.schema.write view
  | .digest value => Digest.schema.write value
  | .outcome value => FinalExecutionOutcome.schema.write value

/-- The query with its result seen as one of the answers. -/
def Query.answering {α : Type} (query : Query α) (make : α → Answer) : Query Answer where
  method := query.method
  params := query.params
  result value := (query.result value).map make

/-- The query of an operation. A transaction is encoded before anything is sent. -/
def Operation.query : Operation → Except CodecError (Query Answer)
  | .call method params => .ok ((Query.raw method params).answering .json)
  | .accessKey account key => .ok ((Query.accessKey account key).answering .accessKey)
  | .blockHash => .ok (Query.blockHash.answering .digest)
  | .commit transaction =>
    transaction.base64.map fun payload => (Query.commit payload).answering .outcome
  | .status transaction sender => .ok ((Query.status transaction sender).answering .outcome)

/-- What an operation does. -/
def Operation.program (operation : Operation) : Program (Except ClientError Answer) :=
  match operation.query with
  | .error error => .done (.error (.codec error))
  | .ok query => .ask query

/-- What came of an operation: what was sent, if anything, and its result. -/
structure Exchange where
  post : Option Post
  outcome : Except ClientError Answer

namespace Client

/-- A fresh client of the node at an address, with no limit of time. -/
def ofUrl (url : String) : Client := ⟨url, none, 0⟩

/-- A fresh client of the configured node. -/
def ofConfig (config : RpcConfig) : Client := ⟨config.endpoint, some config.timeout, 0⟩

/-- Numbers a request. -/
def request (client : Client) (method : String) (params : Json) : Request × Client :=
  (⟨client.nextId, method, params⟩, { client with nextId := client.nextId + 1 })

/-- The request with the address of the client. -/
def address (client : Client) (request : Request) : Post := ⟨client.url, client.timeout, request⟩

/-- Puts a query on its way. -/
def post {α : Type} (client : Client) (query : Query α) : Post × Client :=
  let (request, client) := client.request query.method query.params
  (client.address request, client)

/-- Runs a program over a network that answers what it is sent: the result, what was sent and the
client. -/
def run {α : Type} (network : Post → Delivery) : Program α → Client → (α × List Post) × Client
  | .done result, client => ((result, []), client)
  | .number next, client =>
    run network (next client.nextId) { client with nextId := client.nextId + 1 }
  | .send request next, client =>
    let post := client.address request
    let ((result, posts), client) := run network (next (network post)) client
    ((result, post :: posts), client)

/-- Performs an operation over a network that answers what it is sent. -/
def perform (client : Client) (network : Post → Reply) (operation : Operation) :
    Exchange × Client :=
  let ((outcome, posts), client) :=
    run (fun post => .response ⟨200, none, network post⟩) operation.program client
  (⟨posts.head?, outcome⟩, client)

end Client

end LedgerWire
