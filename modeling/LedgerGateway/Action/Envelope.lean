import LedgerGateway.Action.Error
import LedgerGateway.Action.Format
import LedgerGateway.Decimal
import LedgerGateway.Key.Signature

/-! Actions and unsigned actions as octets and as text, their digests, and the check of the sender's
signature. -/

namespace LedgerGateway

/-- Reads a message of the given format, with the fault as an error of the action. -/
def decodeAs {α : Type} (format : Wire.Message α) (b : Bytes) : Except CodecError α :=
  (format.decode b).mapError .decode

/-- Reads a message from base-16 text with or without a leading `0x`. -/
def decodeHexAs {α : Type} (format : Wire.Message α) (s : String) : Except CodecError α :=
  match Hex.decode (Hex.withoutMark s) with
  | .error fault => .error (.hex fault)
  | .ok b => decodeAs format b

/-- Reads an address, keeping its text for the error. -/
def readAddress (s : String) : Except CodecError Address :=
  (Address.ofText s).mapError (.address s)

/-- Reads an amount: one or more digits. -/
def readAmount (s : String) : Except CodecError Nat :=
  match Decimal.nat? s.toList with
  | some n => .ok n
  | none => .error (.amount s)

namespace ActionCore

def encode (c : ActionCore) : Bytes := format.encode c

/-- What the sender signs. -/
def signingDigest (c : ActionCore) : Digest := Hash.digest256 c.encode

def requirePayload (c : ActionCore) : Except CodecError Payload :=
  match c.payload with
  | some p => .ok p
  | none => .error .missingPayload

end ActionCore

namespace Action

def encode (a : Action) : Bytes := format.encode a

def toHex (a : Action) : String := Hex.encode a.encode

def ofBytes (b : Bytes) : Except CodecError Action := decodeAs format b

def ofHex (s : String) : Except CodecError Action := decodeHexAs format s

/-- The digest that identifies the action on the chain. -/
def hash (a : Action) : Digest := Hash.digest256 a.encode

def requireCore (a : Action) : Except CodecError ActionCore :=
  match a.core with
  | some c => .ok c
  | none => .error .missingCore

def senderPublicKey (a : Action) : Except CodecError PublicKey :=
  (PublicKey.ofBytes a.senderKey).mapError .key

def senderAddress (a : Action) : Except CodecError Address := do
  return Address.ofKey (← a.senderPublicKey)

/-- The sender's key, when the signature over the core recovers it. -/
def verifySignature (a : Action) : Except CodecError PublicKey := do
  let signer ← a.senderPublicKey
  let core ← a.requireCore
  let sig ← (Signature.ofRecoverable a.signature).mapError .key
  if sig.verify core.signingDigest signer then return signer else throw (.key .signatureMismatch)

end Action

namespace UnsignedAction

def ofCore (core : ActionCore) (sender : Address) : UnsignedAction := ⟨core.encode, sender.text⟩

def encode (u : UnsignedAction) : Bytes := format.encode u

def toHex (u : UnsignedAction) : String := Hex.encode u.encode

def ofHex (s : String) : Except CodecError UnsignedAction := decodeHexAs format s

def decodeCore (u : UnsignedAction) : Except CodecError ActionCore :=
  decodeAs ActionCore.format u.core

def senderAddress (u : UnsignedAction) : Except CodecError Address := readAddress u.sender

end UnsignedAction

end LedgerGateway
