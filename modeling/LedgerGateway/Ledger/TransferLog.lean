import LedgerGateway.Action.Envelope
import LedgerGateway.Action.Receipt
import LedgerGateway.Ledger.OperationType

/-! The transfers that a node logs for the actions of a block. Older nodes mark a transfer by an
event topic, newer ones by a number; both are read into the same entries. -/

namespace LedgerGateway

/-- A transfer as logged, with a mark that tells its kind. -/
structure LoggedTransfer (μ : Type) where
  mark : μ
  amount : String
  sender : String
  recipient : String
  deriving DecidableEq

/-- The transfers of one action. -/
structure LogRecord (μ : Type) where
  actionHash : ActionHash
  transfers : List (LoggedTransfer μ)
  deriving DecidableEq

inductive TransferLogs where
  | unavailable
  | implicit (records : List (LogRecord Bytes))
  | transaction (records : List (LogRecord Int))
  deriving DecidableEq

/-- A transfer that has been read. -/
structure LogEntry where
  actionHash : ActionHash
  sender : Address
  recipient : Address
  amount : Nat
  type : OperationType
  deriving DecidableEq

namespace TransferLogs

/-- The topic of transfers inside a contract call. -/
def inContractTopic : Bytes := List.replicate 32 0

/-- The topic of withdrawals from a bucket: a word at the end of 32 octets. -/
def withdrawTopic : Bytes :=
  let word := Bytes.ofText "withdrawAmount"
  List.replicate (32 - word.length) 0 ++ word

def typeOfTopic (topic : Bytes) : Except CodecError OperationType :=
  if topic = inContractTopic then .ok .inContractTransfer
  else if topic = withdrawTopic then .ok .withdrawBucket
  else .error (.topic topic)

def typeOfNumber (number : Int) : Except CodecError OperationType :=
  match OperationType.ofLogType? number with
  | some t => .ok t
  | none => .error (.logType number)

/-- Reads one transfer; the accounts come before the amount and the kind. -/
def readTransfer {μ : Type} (typeOf : μ → Except CodecError OperationType) (hash : ActionHash)
    (t : LoggedTransfer μ) : Except CodecError LogEntry := do
  let sender ← readAddress t.sender
  let recipient ← readAddress t.recipient
  let amount ← readAmount t.amount
  let type ← typeOf t.mark
  return ⟨hash, sender, recipient, amount, type⟩

def readRecords {μ : Type} (typeOf : μ → Except CodecError OperationType)
    (records : List (LogRecord μ)) : Except CodecError (List LogEntry) := do
  let parts ← records.mapM fun r => r.transfers.mapM (readTransfer typeOf r.actionHash)
  return parts.flatten

/-- All entries in the node's order. -/
def entries : TransferLogs → Except CodecError (List LogEntry)
  | unavailable => .ok []
  | implicit records => readRecords typeOfTopic records
  | transaction records => readRecords typeOfNumber records

/-- The action of every record, also of one without transfers. -/
def actionHashes : TransferLogs → List ActionHash
  | unavailable => []
  | implicit records => records.map (·.actionHash)
  | transaction records => records.map (·.actionHash)

end TransferLogs

end LedgerGateway
