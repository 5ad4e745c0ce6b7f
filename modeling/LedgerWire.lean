import LedgerWire.AccessKey
import LedgerWire.Account.Encoding
import LedgerWire.Account.Id
import LedgerWire.Action
import LedgerWire.Amount
import LedgerWire.Bytes
import LedgerWire.CodecError
import LedgerWire.CommandLine.Exit
import LedgerWire.CommandLine.Grammar
import LedgerWire.CommandLine.Invocation
import LedgerWire.CommandLine.Run
import LedgerWire.Config
import LedgerWire.Config.Yaml
import LedgerWire.Curve.Ed25519
import LedgerWire.Curve.Field
import LedgerWire.Curve.Point
import LedgerWire.Digest.Basic
import LedgerWire.Digest.Sha2
import LedgerWire.Digest.Sha256
import LedgerWire.Digest.Sha512
import LedgerWire.Execution.ActionContext
import LedgerWire.Execution.ActionError
import LedgerWire.Execution.FunctionCallError
import LedgerWire.Execution.InvalidTxError
import LedgerWire.Execution.Outcome
import LedgerWire.Execution.Status
import LedgerWire.Execution.TransactionContext
import LedgerWire.Json.Double
import LedgerWire.Json.ReadError
import LedgerWire.Json.Schema
import LedgerWire.Json.Text
import LedgerWire.Json.Value
import LedgerWire.Key.Basic
import LedgerWire.Node.View
import LedgerWire.Rpc.Program
import LedgerWire.Rpc.Client
import LedgerWire.Rpc.Envelope
import LedgerWire.Rpc.Failure
import LedgerWire.Rpc.Reply
import LedgerWire.Rpc.Request
import LedgerWire.Rpc.Traffic
import LedgerWire.Text.Base58
import LedgerWire.Text.Base64
import LedgerWire.Text.Decimal
import LedgerWire.Text.Hex
import LedgerWire.Text.Printable
import LedgerWire.Text.Quoted
import LedgerWire.Text.Radix
import LedgerWire.Text.Shown
import LedgerWire.Text.Utf8
import LedgerWire.Transaction
import LedgerWire.Union.Registry
import LedgerWire.Union.Tagged
import LedgerWire.Wire.Layout
import LedgerWire.Yaml.Cursor
import LedgerWire.Yaml.Directive
import LedgerWire.Yaml.Node
import LedgerWire.Yaml.Scalar
import LedgerWire.Yaml.Tag
import LedgerWire.Yaml.Token
import LedgerWire.Yaml.Typed
import LedgerWire.Main
import LedgerWire.Proofs.Except
import LedgerWire.Proofs.Text.Utf8
import LedgerWire.Proofs.Union.Registry
import LedgerWire.Proofs.Wire.Lawful
import LedgerWire.Proofs.Account.Id
import LedgerWire.Proofs.Wire.Ledger
import LedgerWire.Proofs.Wire.Canonical
import LedgerWire.Proofs.Text.Decimal
import LedgerWire.Proofs.Text.Base58
import LedgerWire.Proofs.Key.Basic
import LedgerWire.Proofs.Text.Base64
import LedgerWire.Proofs.Json.Schema
import LedgerWire.Proofs.Union.Tagged
import LedgerWire.Proofs.Json.Execution
import LedgerWire.Proofs.Json.RoundTrip
import LedgerWire.Wire.Sink
import LedgerWire.Proofs.Wire.Sink
import LedgerWire.Proofs.Wire.Published
import LedgerWire.Proofs.Rpc.Classification
import LedgerWire.Proofs.Union.Table
import LedgerWire.Proofs.Union.Payload
import LedgerWire.Proofs.Union.Form
import LedgerWire.Proofs.Execution.Nesting
import LedgerWire.Proofs.Json.Tagging
import LedgerWire.Proofs.Curve.Edwards
import LedgerWire.Proofs.Curve.Field
import LedgerWire.Proofs.Curve.Point
import LedgerWire.Proofs.Curve.Ed25519
import LedgerWire.Proofs.Transaction.Signing
import LedgerWire.Proofs.CommandLine.Encode
import LedgerWire.Proofs.CommandLine.Classify
import LedgerWire.Proofs.Wire.Sequential
import LedgerWire.Proofs.Wire.Truncation
import LedgerWire.Proofs.Wire.Refusal
import LedgerWire.Proofs.Rpc.Recovery
import LedgerWire.Proofs.Rpc.Course
import LedgerWire.Proofs.Rpc.Traffic
import LedgerWire.Proofs.Rpc.Operation
import LedgerWire.Proofs.Rpc.Outcome
import LedgerWire.Proofs.Rpc.Degradation
import LedgerWire.Proofs.Json.ByName
import LedgerWire.Proofs.Json.Reordered
import LedgerWire.Proofs.Union.ByName
import LedgerWire.Proofs.Json.Unordered
import LedgerWire.Proofs.Json.Inside
import LedgerWire.Proofs.Json.Members
import LedgerWire.Proofs.Account.Grammar
import LedgerWire.Proofs.Key.Canonical
import LedgerWire.Proofs.Json.Declared
import LedgerWire.Proofs.Transaction.Building
import LedgerWire.Proofs.Json.Amount
import LedgerWire.Proofs.Text.Sextets
import LedgerWire.Proofs.Json.Payload
import LedgerWire.Proofs.Execution.Readers
import LedgerWire.Proofs.Curve.Foreign
import LedgerWire.Proofs.Key.Accepted
import LedgerWire.Proofs.Key.Disclosure
