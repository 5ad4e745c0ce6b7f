import LedgerWire.Rpc.Reply

/-!
# What a call does, step by step

A call takes a number, sends a request through an HTTP library and waits for what the library gives
back. It is written down as a program, which tells the next step and what follows it, so that the
steps of several calls can be taken in turn. What a call makes of a response is in its body alone.
-/

namespace LedgerWire

/-- A response: its status, where it sends on to, and what its body is read as. -/
structure Response where
  status : UInt16
  location : Option String
  body : Reply
  deriving DecidableEq

/-- What the HTTP library gives back for a request: a response, or nothing. -/
inductive Delivery where
  | lost
  | response (response : Response)
  deriving DecidableEq

/-- The reply that a call gets. The status plays no part in it. -/
def Delivery.reply : Delivery → Reply
  | .lost => .unreadable
  | .response received => received.body

/-- A program that takes numbers of a client and sends requests. -/
inductive Program (α : Type) where
  | done (result : α)
  /-- Takes the next number. -/
  | number (next : UInt64 → Program α)
  /-- Sends a request through the HTTP library and waits for what it gives back. -/
  | send (request : Request) (next : Delivery → Program α)

namespace Program

variable {α β : Type}

/-- Goes on with what a program has come to. -/
def bind (program : Program α) (next : α → Program β) : Program β :=
  match program with
  | .done result => next result
  | .number rest => .number fun id => (rest id).bind next
  | .send request rest => .send request fun delivery => (rest delivery).bind next

instance : Monad Program where
  pure := .done
  bind := .bind

/-- Builds the request of a method, which takes a number. -/
def request (method : String) (params : Json) : Program Request :=
  .number fun id => .done ⟨id, method, params⟩

/-- Asks a query: one request is built and sent, and its reply is the answer. -/
def ask (query : Query α) : Program (Except ClientError α) := do
  let request ← request query.method query.params
  let delivery ← send request .done
  return delivery.reply.answer query

end Program

end LedgerWire
