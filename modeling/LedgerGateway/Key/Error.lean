import LedgerGateway.Bytes.Hex

/-! What can be wrong with a key or a signature. -/

namespace LedgerGateway

/-- Why octets or text are no public key. -/
inductive PublicKeyFault where
  | hex (fault : Hex.Fault)
  | length (count : Nat)
  | malformed
  deriving DecidableEq

def PublicKeyFault.message : PublicKeyFault → String
  | .hex fault => fault.message
  | .length count => "length " ++ toString count ++ " is neither 33 nor 65"
  | .malformed => "malformed public key"

inductive KeyError where
  | invalidPublicKey (fault : PublicKeyFault)
  | invalidSecretKey
  | invalidSignatureLength (count : Nat)
  | invalidRecoveryId (value : Nat)
  | malformedSignature
  | signatureMismatch
  deriving DecidableEq

def KeyError.message : KeyError → String
  | .invalidPublicKey fault => "invalid public key: " ++ fault.message
  | .invalidSecretKey => "invalid secret key"
  | .invalidSignatureLength count =>
    "invalid signature length " ++ toString count ++ ": expected 64 or 65 bytes"
  | .invalidRecoveryId value => "invalid recovery id " ++ toString value
  | .malformedSignature => "malformed signature"
  | .signatureMismatch => "signature does not match public key"

end LedgerGateway
