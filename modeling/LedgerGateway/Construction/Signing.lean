import LedgerGateway.Construction.Draft
import LedgerGateway.Construction.TransferPair
import LedgerGateway.Node

/-! Transactions on their way through a signer: the unsigned form with the digest to sign, the
signed form with the signature that came back, and its submission. -/

namespace LedgerGateway

/-- A public key as clients write it. -/
structure KeyText where
  hexBytes : String
  curveType : String
  deriving DecidableEq

namespace KeyText

/-- The name of the curve of all keys. -/
def curve : String := "secp256k1"

def read (k : KeyText) : Except ConstructionError PublicKey :=
  if k.curveType ≠ curve then .error (.unsupportedCurve k.curveType)
  else (PublicKey.ofHex k.hexBytes).mapError .invalidPublicKey

def address (k : KeyText) : Except ConstructionError Address := do
  return Address.ofKey (← k.read)

end KeyText

/-- What an account is to sign, and how. -/
structure SigningPayload where
  account : String
  hexBytes : String
  signatureType : String
  deriving DecidableEq

/-- A signature with what it signs and the key that it claims. -/
structure SignatureText where
  payload : SigningPayload
  key : KeyText
  signatureType : String
  hexBytes : String
  deriving DecidableEq

structure PayloadsRequest where
  operations : List Operation
  parameters : ActionParameters
  keys : List KeyText := []

/-- An unsigned transaction, and what is to be signed for it. -/
structure UnsignedTransaction where
  transaction : String
  payloads : List SigningPayload
  deriving DecidableEq

namespace UnsignedTransaction

/-- The kind of signature that is asked for. -/
def signatureType : String := "ecdsa_recovery"

/-- The first key of a request, if there is one, must be the sender's. -/
def requireKey (sender : Address) : List KeyText → Except ConstructionError Unit
  | [] => .ok ()
  | key :: _ => do
    let signer ← key.address
    if signer = sender then return () else throw (.invalidInput (.keyOfOther signer sender))

/-- The core of a transfer with the given parameters. -/
def core (pair : TransferPair) (p : ActionParameters) (chainId : UInt32) : ActionCore :=
  let d : ActionDraft :=
    { chainId, nonce := p.nonce, gasLimit := p.gasLimit, gasPrice := p.gasPrice }
  (d.transfer pair.recipient pair.amount).core

def ofRequest (req : PayloadsRequest) (ctx : ConstructionContext) :
    Except ConstructionError UnsignedTransaction := do
  let pair ← TransferPair.ofOperations ctx.currency req.operations
  requireKey pair.sender req.keys
  let core := core pair req.parameters ctx.chainId
  return ⟨(UnsignedAction.ofCore core pair.sender).toHex,
    [⟨pair.sender.text, Hex.encode core.signingDigest.bytes, signatureType⟩]⟩

end UnsignedTransaction

structure CombineRequest where
  transaction : String
  signatures : List SignatureText

namespace SignedTransaction

/-- Reads a signature of the sender. Any number of `0x` marks may stand before it. -/
def readSignature (s : SignatureText) (core : ActionCore) (sender : Address) :
    Except ConstructionError (PublicKey × Signature) := do
  let key ← s.key.read
  if Address.ofKey key ≠ sender then throw (.invalidSignature (.keyOfOther sender))
  let octets ←
    (Hex.decode (Hex.withoutMarks s.hexBytes)).mapError fun e => .invalidSignature (.hex e)
  let signature ← (Signature.ofBytesForSigner octets core.signingDigest key).mapError fun e =>
    .invalidSignature (.key e)
  return (key, signature)

/-- The text of the action made of an unsigned transaction and its one signature. -/
def combine (req : CombineRequest) : Except ConstructionError String :=
  match req.signatures with
  | [s] => do
    let unsigned ← (UnsignedAction.ofHex req.transaction).mapError .unmarshal
    let core ← unsigned.decodeCore.mapError .unmarshal
    let sender ← unsigned.senderAddress.mapError .unmarshal
    let (key, signature) ← readSignature s core sender
    return (core.signed key signature.bytes).toHex
  | signatures => .error (.invalidInput (.signatureCount signatures.length))

/-- The name of a signed transaction. -/
def hash (transaction : String) : Except ConstructionError String := do
  let action ← (Action.ofHex transaction).mapError .parse
  return ActionHash.text action.hash

/-- Hands a signed transaction to the node, which may have a name of its own for it. Only the
signature is checked before; the texts of the payload are not read. -/
def submit (transaction : String) : ExceptT ConstructionError Talk String := do
  let action ← Talk.ofExcept ((Action.ofHex transaction).mapError .parse)
  let _ ← Talk.ofExcept (action.verifySignature.mapError fun e => .invalidSignature (.envelope e))
  match ← Talk.query (.submit action) .submit with
  | some name => return if name = "" then ActionHash.text action.hash else name
  | none => return ActionHash.text action.hash

end SignedTransaction

end LedgerGateway
