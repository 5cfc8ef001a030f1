import LedgerGateway.Construction.TransferPair

/-! The wishes of a sender: which transfer, at which fees. They travel from the request that checks
them to the one that asks the node for the rest. -/

namespace LedgerGateway

/-- Operations with wishes for their fees, as requested. -/
structure PreprocessRequest where
  operations : List Operation
  metadata : Option (List (String × Json)) := none
  maxFee : List Amount := []
  feeMultiplier : Option Binary64 := none

/-- A transfer, and the parameters that the sender has fixed. -/
structure TransferOptions where
  sender : Address
  recipient : Address
  amount : Amount
  gasLimit : Option UInt64 := none
  gasPrice : Option UInt64 := none
  nonce : Option UInt64 := none
  maxFee : Option Amount := none
  feeMultiplier : Option Binary64 := none
  deriving DecidableEq

/-- Whether prices can be multiplied by the number. -/
def Binary64.isMultiplier (m : Binary64) : Bool := m.isFinite && m.isPositive

namespace TransferOptions

/-- At most one limit for the fee, which must not be negative. -/
def readMaxFee (currency : Currency) : List Amount → Except ConstructionError (Option Amount)
  | [] => .ok none
  | [fee] => do
    fee.requireCurrency currency
    if fee.value < 0 then throw (.invalidInput .negativeMaxFee)
    return some fee
  | more => .error (.invalidInput (.maxFeeCount more.length))

def readMultiplier : Option Binary64 → Except ConstructionError (Option Binary64)
  | some m => if m.isMultiplier then .ok (some m) else .error (.invalidInput (.multiplier m))
  | none => .ok none

/-- A number that the metadata may fix. -/
def readFixed (metadata : List (String × Json)) (key : String) :
    Except ConstructionError (Option UInt64) :=
  match Json.last? key metadata with
  | none | some .null => .ok none
  | some value =>
    match value.toWord? with
    | some n => .ok (some n)
    | none => .error (.invalidInput (.notUnsigned key))

/-- Checks a request, in the order operations, limit, multiplier, fixed numbers. -/
def ofRequest (req : PreprocessRequest) (currency : Currency) :
    Except ConstructionError TransferOptions := do
  let pair ← TransferPair.ofOperations currency req.operations
  let metadata := req.metadata.getD []
  let maxFee ← readMaxFee currency req.maxFee
  let feeMultiplier ← readMultiplier req.feeMultiplier
  let gasLimit ← readFixed metadata "gasLimit"
  let gasPrice ← readFixed metadata "gasPrice"
  let nonce ← readFixed metadata "nonce"
  return { sender := pair.sender, recipient := pair.recipient, amount := ⟨pair.amount, currency⟩,
           gasLimit, gasPrice, nonce, maxFee, feeMultiplier }

/-- The accounts whose keys the transfer needs. -/
def signers (o : TransferOptions) : List Address := [o.sender]

end TransferOptions

end LedgerGateway
