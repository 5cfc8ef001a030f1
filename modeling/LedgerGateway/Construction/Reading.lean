import LedgerGateway.Construction.Draft
import LedgerGateway.Construction.TransferPair

/-! Reading transactions, signed or not, back into the operations and parameters that they
were made of. -/

namespace LedgerGateway

structure ParseRequest where
  signed : Bool
  transaction : String
  deriving DecidableEq

/-- A transaction that has been read. Only a signed one names signers. -/
structure ParsedTransaction where
  operations : List Operation
  signers : List String := []
  parameters : ActionParameters

namespace ParsedTransaction

/-- A bad key and a bad signature are told apart from an envelope that cannot be read. -/
def signatureError : CodecError → ConstructionError
  | .key (.invalidPublicKey fault) => .invalidPublicKey (.invalidPublicKey fault)
  | .key error => .invalidSignature (.key error)
  | error => .parse error

/-- The core and the sender of a signed transaction. -/
def readSigned (transaction : String) : Except ConstructionError (ActionCore × Address) := do
  let action ← (Action.ofHex transaction).mapError .parse
  let key ← action.verifySignature.mapError signatureError
  let core ← action.requireCore.mapError .parse
  return (core, Address.ofKey key)

/-- The core and the sender of an unsigned transaction. -/
def readUnsigned (transaction : String) : Except ConstructionError (ActionCore × Address) := do
  let unsigned ← (UnsignedAction.ofHex transaction).mapError .parse
  let core ← unsigned.decodeCore.mapError .parse
  let sender ← unsigned.senderAddress.mapError .parse
  return (core, sender)

/-- The transfer of a core; other payloads are not constructed here. -/
def readPair (core : ActionCore) (sender : Address) : Except ConstructionError TransferPair := do
  match ← core.requirePayload.mapError .parse with
  | .transfer t =>
    let recipient ← (readAddress t.recipient).mapError .parse
    let amount ← (readAmount t.amount).mapError .parse
    return ⟨sender, recipient, amount⟩
  | other => throw (.invalidInput (.notTransfer other.name))

def readGasPrice (s : String) : Except ConstructionError UInt64 :=
  match Decimal.word? s.toList with
  | some price => .ok price
  | none => .error (.invalidGasPrice (.text s))

def ofRequest (req : ParseRequest) (currency : Currency) :
    Except ConstructionError ParsedTransaction := do
  let (core, sender) ←
    if req.signed then readSigned req.transaction else readUnsigned req.transaction
  let pair ← readPair core sender
  let gasPrice ← readGasPrice core.gasPrice
  return { operations := pair.operations currency,
           signers := if req.signed then [sender.text] else [],
           parameters := ⟨core.nonce, core.gasLimit, gasPrice⟩ }

end ParsedTransaction

end LedgerGateway
