import LedgerGateway.Action.Envelope
import LedgerGateway.Key.Secret
import LedgerGateway.Ledger.Amount

/-! Actions in the making: the parameters that a sender chooses, and the core that they make. -/

namespace LedgerGateway

/-- What transfers are constructed for. -/
structure ConstructionContext where
  currency : Currency := .native
  chainId : UInt32 := 1
  /-- Signs the drafts that gas is estimated for; the signature binds nobody. -/
  draftKey : SecretKey := .one

structure ActionParameters where
  nonce : UInt64
  gasLimit : UInt64
  gasPrice : UInt64
  deriving DecidableEq

/-- An action whose parts are filled in one by one. -/
structure ActionDraft where
  chainId : UInt32
  nonce : UInt64 := 0
  gasLimit : UInt64 := 0
  gasPrice : UInt64 := 0
  payload : Option Payload := none
  deriving DecidableEq

namespace ActionDraft

/-- The version of all actions. -/
def version : UInt32 := 1

/-- Makes the action a transfer without data. -/
def transfer (d : ActionDraft) (recipient : Address) (amount : Nat) : ActionDraft :=
  { d with payload := some (.transfer ⟨Decimal.natText amount, recipient.text, []⟩) }

def core (d : ActionDraft) : ActionCore :=
  { version := version, nonce := d.nonce, gasLimit := d.gasLimit,
    gasPrice := Decimal.natText d.gasPrice.toNat, chainId := d.chainId, payload := d.payload }

end ActionDraft

namespace ActionCore

/-- Attaches a signer's key and signature. -/
def signed (core : ActionCore) (signer : PublicKey) (signature : Bytes) : Action :=
  ⟨some core, signer.uncompressed, signature⟩

/-- Signs with a secret key. -/
def signedBy (core : ActionCore) (secret : SecretKey) : Action :=
  core.signed secret.publicKey (((secret.sign? core.signingDigest).map Signature.bytes).getD [])

end ActionCore

end LedgerGateway
