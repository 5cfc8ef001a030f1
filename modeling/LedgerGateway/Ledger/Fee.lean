import LedgerGateway.Action.Envelope
import LedgerGateway.Ledger.Error
import LedgerGateway.Ledger.Posting

/-! The gas fee of an action: what it burned times the price that its sender offered. -/

namespace LedgerGateway.Fee

/-- The mark of a fee whose debit is twice its credit. -/
def asymmetry : List (String × Json) := [("fee_asymmetry", .bool true)]

def isExecution (core : ActionCore) : Bool :=
  match core.payload with
  | some (.execution _) => true
  | _ => false

/-- The fee posting from the sender to the rewarding pool, none for a fee of zero. Below the Pacific
height an execution paid its fee twice and the pool received it once. -/
def ofCore (core : ActionCore) (sender : Address) (receipt : Receipt) (height : UInt64)
    (ctx : LedgerContext) : Except LedgerError (Option Posting) :=
  match Decimal.nat? core.gasPrice.toList with
  | none => .error (.invalidGasPrice receipt.actionHash core.gasPrice)
  | some price =>
    let fee := price * receipt.gasConsumed.toNat
    if fee = 0 then .ok none
    else if isExecution core ∧ height < ctx.pacificHeight then
      .ok (some ⟨.gasFee, sender, ctx.pools.rewarding, 2 * fee, fee, some asymmetry⟩)
    else .ok (some (.balanced .gasFee sender ctx.pools.rewarding fee))

end LedgerGateway.Fee
