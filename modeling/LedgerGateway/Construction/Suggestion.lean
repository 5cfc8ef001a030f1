import LedgerGateway.Construction.Draft
import LedgerGateway.Construction.Options
import LedgerGateway.Node

/-! What the sender has not fixed is asked of the node: the nonce, the price of gas, and how much
gas the transfer takes. -/

namespace LedgerGateway

/-- The parameters of a transfer and the fee that they allow. -/
structure Suggestion where
  parameters : ActionParameters
  fee : Amount
  deriving DecidableEq

namespace Suggestion

/-- Multipliers count in millionths. -/
def scale : Nat := 1000000

/-- Factors and products have 128 bits. -/
def bound : Nat := 0x100000000000000000000000000000000

/-- A multiplier in millionths, rounded up, and at most what 128 bits hold. -/
def factor (m : Binary64) : Nat :=
  let product := m.mul (.ofNat scale)
  if product.isFinite then min product.ceilNat (bound - 1) else bound - 1

/-- A price times a multiplier, rounded up. The product of price and factor is taken in 128 bits. -/
def scaledPrice (price : UInt64) (m : Binary64) : Except ConstructionError UInt64 :=
  if !m.isMultiplier then .error (.invalidInput (.multiplier m))
  else
    let product := price.toNat * factor m
    let scaled := (product + (scale - 1)) / scale
    if product < bound ∧ scaled < UInt64.size then .ok (.ofNat scaled)
    else .error (.invalidGasPrice (.overflow price m))

/-- The action that gas is estimated for. -/
def draft (o : TransferOptions) (nonce gasPrice : UInt64) (ctx : ConstructionContext) : Action :=
  let d : ActionDraft := { chainId := ctx.chainId, nonce, gasPrice }
  (d.transfer o.recipient o.amount.value.toNat).core.signedBy ctx.draftKey

def nonce (o : TransferOptions) : ExceptT ConstructionError Talk UInt64 :=
  match o.nonce with
  | some n => pure n
  | none => do return (← Talk.query (.account o.sender) .nonce).pendingNonce

/-- A price that the sender has fixed is not multiplied. -/
def gasPrice (o : TransferOptions) : ExceptT ConstructionError Talk UInt64 :=
  match o.gasPrice with
  | some price => pure price
  | none => do
    let price ← Talk.query .gasPrice .suggestGasPrice
    match o.feeMultiplier with
    | some m => Talk.ofExcept (scaledPrice price m)
    | none => return price

def gasLimit (o : TransferOptions) (nonce gasPrice : UInt64) (ctx : ConstructionContext) :
    ExceptT ConstructionError Talk UInt64 :=
  match o.gasLimit with
  | some limit => pure limit
  | none => Talk.query (.estimateGas (draft o nonce gasPrice ctx)) .estimateGas

/-- Refuses a fee above the sender's limit; a negative limit counts as zero. -/
def requireWithin (fee : Nat) : Option Amount → Except ConstructionError Unit
  | some max => if max.value.toNat < fee then .error (.exceededFee fee max.value.toNat) else .ok ()
  | none => .ok ()

/-- Completes the options of a transfer. -/
def ofOptions (o : TransferOptions) (ctx : ConstructionContext) :
    ExceptT ConstructionError Talk Suggestion := do
  let nonce ← Suggestion.nonce o
  let gasPrice ← Suggestion.gasPrice o
  let gasLimit ← Suggestion.gasLimit o nonce gasPrice ctx
  let fee := gasPrice.toNat * gasLimit.toNat
  Talk.ofExcept (requireWithin fee o.maxFee)
  return ⟨⟨nonce, gasLimit, gasPrice⟩, ⟨fee, ctx.currency⟩⟩

end Suggestion

end LedgerGateway
