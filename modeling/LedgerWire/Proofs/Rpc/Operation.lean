import LedgerWire.Proofs.Except
import LedgerWire.Proofs.Transaction.Signing
import LedgerWire.Rpc.Client

/-!
# What an operation asks

Each operation asks one method, with parameters that are made of its arguments, and reads its
result as one type. Only a transaction may fail to be asked for: when it has no bytes, and then no
number is taken and nothing is sent.
-/

namespace LedgerWire

namespace Operation

variable {operation : Operation} {method : String} {params : Json}

/-- The method and the parameters that an operation asks. -/
inductive Asks : Operation → String → Json → Prop
  | call (method : String) (params : Json) : Asks (.call method params) method params
  | accessKey (account : AccountId) (key : PublicKey) :
      Asks (.accessKey account key) "query"
        (.object [("request_type", .string "view_access_key"), ("finality", .string "final"),
          ("account_id", .string account.text), ("public_key", .string key.text)])
  | blockHash : Asks .blockHash "block" (.object [("finality", .string "final")])
  | commit {transaction : SignedTransaction} {bytes : Bytes}
      (encode : Wire.encode transaction = .ok bytes) :
      Asks (.commit transaction) "broadcast_tx_commit"
        (.array [.string (Base64.encode bytes)])
  | status (transaction : Digest) (sender : AccountId) :
      Asks (.status transaction sender) "tx"
        (.array [.string transaction.text, .string sender.text])

/-- What an operation reads a result as. -/
def reader : Operation → Json → Except Json.ReadError Answer
  | .call _ _, json => .ok (.json json)
  | .accessKey _ _, json => (AccessKeyView.schema.read json).map .accessKey
  | .blockHash, json => (BlockView.schema.read json).map fun view => .digest view.header.hash
  | .commit _, json => (FinalExecutionOutcome.schema.read json).map .outcome
  | .status _ _, json => (FinalExecutionOutcome.schema.read json).map .outcome

/-- The transaction of an operation, if it has one, has bytes. -/
def Encodes (operation : Operation) : Prop :=
  ∀ transaction, operation = .commit transaction →
    ∃ bytes, Wire.encode transaction = .ok bytes

/-- An operation asks one method with one value of the parameters. -/
theorem Asks.unique {other : String} {others : Json} (h : operation.Asks method params)
    (h' : operation.Asks other others) : other = method ∧ others = params := by
  cases h with
  | commit encode =>
    cases h' with
    | commit encode' =>
      obtain rfl := Except.ok.inj (encode.symm.trans encode')
      exact ⟨rfl, rfl⟩
  | call | accessKey | blockHash | status =>
    cases h'
    exact ⟨rfl, rfl⟩

/-- An operation asks something just when its transaction has bytes. -/
theorem exists_asks_iff : (∃ method params, operation.Asks method params) ↔
    operation.Encodes := by
  constructor
  · rintro ⟨method, params, hasks⟩ transaction rfl
    cases hasks with
    | commit encode => exact ⟨_, encode⟩
  · intro hencodes
    cases operation with
    | call method params => exact ⟨_, _, .call method params⟩
    | accessKey account key => exact ⟨_, _, .accessKey account key⟩
    | blockHash => exact ⟨_, _, .blockHash⟩
    | commit transaction =>
      obtain ⟨bytes, hencode⟩ := hencodes transaction rfl
      exact ⟨_, _, .commit hencode⟩
    | status transaction sender => exact ⟨_, _, .status transaction sender⟩

/-- The query of an operation asks what the operation asks, and reads what it reads. -/
theorem query_of_asks (h : operation.Asks method params) :
    operation.query = .ok ⟨method, params, operation.reader⟩ := by
  cases h with
  | accessKey => rfl
  | blockHash =>
    have hreader : (Query.blockHash.answering .digest).result = blockHash.reader := by
      funext json
      show ((BlockView.schema.read json).map _).map _ = (BlockView.schema.read json).map _
      cases BlockView.schema.read json <;> rfl
    show Except.ok (Query.blockHash.answering .digest) = _
    rw [← hreader]
    rfl
  | commit encode =>
    rw [query, SignedTransaction.base64, encode]
    rfl
  | call | status => rfl

/-- An operation has a query just when it asks something, and asks that. -/
theorem query_eq_ok_iff {query : Query Answer} : operation.query = .ok query ↔
    operation.Asks query.method query.params ∧ query.result = operation.reader := by
  constructor
  · intro hquery
    have hencodes : operation.Encodes := by
      rintro transaction rfl
      rw [Operation.query, Except.map_eq_ok_iff] at hquery
      obtain ⟨payload, hpayload, -⟩ := hquery
      obtain ⟨bytes, hencode, -⟩ := Except.map_eq_ok_iff.mp hpayload
      exact ⟨bytes, hencode⟩
    obtain ⟨method, params, hasks⟩ := exists_asks_iff.mpr hencodes
    obtain rfl := Except.ok.inj ((query_of_asks hasks).symm.trans hquery)
    exact ⟨hasks, rfl⟩
  · rintro ⟨hasks, hresult⟩
    rw [query_of_asks hasks, ← hresult]

/-- An operation whose transaction has no bytes has no query. -/
theorem query_of_not_encodes (h : ¬operation.Encodes) :
    ∃ error, operation.query = .error error := by
  cases hquery : operation.query with
  | error error => exact ⟨error, rfl⟩
  | ok query => exact absurd (exists_asks_iff.mp ⟨_, _, (query_eq_ok_iff.mp hquery).1⟩) h

/-- Without bytes of its transaction an operation takes no number and sends nothing. -/
theorem perform_refused (h : ¬operation.Encodes) (client : Client) (network : Post → Reply) :
    ∃ error, client.perform network operation = (⟨none, .error (.codec error)⟩, client) := by
  obtain ⟨error, hquery⟩ := query_of_not_encodes h
  refine ⟨error, ?_⟩
  simp only [Client.perform, program, hquery]
  rfl

/-- Performed on its own, an operation sends what it asks, with the next number and to the
address of the client, and comes to what the reply is read as. -/
theorem perform_eq (h : operation.Asks method params) (client : Client)
    (network : Post → Reply) :
    let post : Post := ⟨client.url, client.timeout, ⟨client.nextId, method, params⟩⟩
    client.perform network operation =
      (⟨some post, (network post).answer ⟨method, params, operation.reader⟩⟩,
        { client with nextId := client.nextId + 1 }) := by
  intro post
  simp only [Client.perform, program, query_of_asks h]
  rfl

end Operation

end LedgerWire
