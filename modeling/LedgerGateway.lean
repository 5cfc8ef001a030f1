import LedgerGateway.Action
import LedgerGateway.Action.Envelope
import LedgerGateway.Action.Error
import LedgerGateway.Action.Format
import LedgerGateway.Action.Receipt
import LedgerGateway.Address
import LedgerGateway.Address.Bech32
import LedgerGateway.Binary64
import LedgerGateway.Binary64.Shortest
import LedgerGateway.Bytes
import LedgerGateway.Bytes.Bits
import LedgerGateway.Bytes.Hex
import LedgerGateway.Bytes.Lemmas
import LedgerGateway.Catalog
import LedgerGateway.CommandLine
import LedgerGateway.Config
import LedgerGateway.Config.Format
import LedgerGateway.Construction.Draft
import LedgerGateway.Construction.Error
import LedgerGateway.Construction.Format
import LedgerGateway.Construction.Options
import LedgerGateway.Construction.Reading
import LedgerGateway.Construction.Signing
import LedgerGateway.Construction.Stage
import LedgerGateway.Construction.Suggestion
import LedgerGateway.Construction.TransferPair
import LedgerGateway.Curve
import LedgerGateway.Decimal
import LedgerGateway.Hash
import LedgerGateway.Hash.Blake2b
import LedgerGateway.Hash.Keccak
import LedgerGateway.Hash.Sha256
import LedgerGateway.Hash.Words
import LedgerGateway.Json
import LedgerGateway.Json.Number
import LedgerGateway.Json.Parser
import LedgerGateway.Json.Printer
import LedgerGateway.Json.Record
import LedgerGateway.Json.Skip
import LedgerGateway.Key.Error
import LedgerGateway.Key.Public
import LedgerGateway.Key.Secret
import LedgerGateway.Key.Signature
import LedgerGateway.Ledger.Amount
import LedgerGateway.Ledger.Assemble
import LedgerGateway.Ledger.Error
import LedgerGateway.Ledger.Fee
import LedgerGateway.Ledger.Fetch
import LedgerGateway.Ledger.Format
import LedgerGateway.Ledger.Movement
import LedgerGateway.Ledger.Operation
import LedgerGateway.Ledger.OperationType
import LedgerGateway.Ledger.Posting
import LedgerGateway.Ledger.RawBlock
import LedgerGateway.Ledger.Reconcile
import LedgerGateway.Ledger.TransferLog
import LedgerGateway.Main
import LedgerGateway.Node
import LedgerGateway.Node.Error
import LedgerGateway.Program
import LedgerGateway.Release
import LedgerGateway.Service
import LedgerGateway.Service.Body
import LedgerGateway.Service.Endpoint
import LedgerGateway.Service.Gateway
import LedgerGateway.Service.Line
import LedgerGateway.Service.Lookup
import LedgerGateway.Service.MediaType
import LedgerGateway.Service.Metrics
import LedgerGateway.Service.Network
import LedgerGateway.Text.Blank
import LedgerGateway.Toml
import LedgerGateway.Toml.Number
import LedgerGateway.Toml.Parser
import LedgerGateway.Toml.Printer
import LedgerGateway.Toml.Text
import LedgerGateway.Wire
import LedgerGateway.Wire.Message
import LedgerGateway.Proofs.Outcome
import LedgerGateway.Proofs.Ledger.Fee
import LedgerGateway.Proofs.Ledger.LogGroups
import LedgerGateway.Proofs.Ledger.Movement
import LedgerGateway.Proofs.Ledger.Reconcile
import LedgerGateway.Proofs.Ledger.ActionReading
import LedgerGateway.Proofs.Ledger.Balance
import LedgerGateway.Proofs.Ledger.Shape
import LedgerGateway.Proofs.Ledger.WellFormed
import LedgerGateway.Proofs.Ledger.Lookup
import LedgerGateway.Proofs.Ledger.LogRecord
import LedgerGateway.Proofs.Ledger.AccountChange
import LedgerGateway.Proofs.Construction.Reading
import LedgerGateway.Proofs.Construction.Unsigned
import LedgerGateway.Proofs.Construction.Signed
import LedgerGateway.Proofs.Construction.Settlement
import LedgerGateway.Proofs.Action.RoundTrip
import LedgerGateway.Proofs.Construction.Submission
import LedgerGateway.Proofs.Construction.Conventions
import LedgerGateway.Proofs.Json.Record
import LedgerGateway.Proofs.Ledger.Format
import LedgerGateway.Proofs.Construction.Suggestion
import LedgerGateway.Proofs.Construction.Options
import LedgerGateway.Proofs.Construction.Format
import LedgerGateway.Proofs.Ledger.Arrangement
import LedgerGateway.Proofs.Wire.Remainder
import LedgerGateway.Proofs.Construction.Completion
import LedgerGateway.Proofs.Construction.Forms
import LedgerGateway.Proofs.Node.Failure
import LedgerGateway.Proofs.Construction.GasPrice
import LedgerGateway.Proofs.Service.Guard
import LedgerGateway.Proofs.Service.Failure
import LedgerGateway.Proofs.Service.Counts
import LedgerGateway.Proofs.Json.Field
import LedgerGateway.Proofs.Ledger.Amount
import LedgerGateway.Proofs.Construction.TransferPair
import LedgerGateway.Proofs.Text
import LedgerGateway.Proofs.Address.Grammar
import LedgerGateway.Proofs.Address.Reading
import LedgerGateway.Proofs.Address.Misprint
import LedgerGateway.Proofs.Binary64
import LedgerGateway.Proofs.Construction.Multiple
import LedgerGateway.Proofs.Ledger.ReportedBalance
