import LedgerGateway.Action.Envelope
import LedgerGateway.Ledger.Error
import LedgerGateway.Ledger.Posting

/-! What an action itself moves, as its payload tells. -/

namespace LedgerGateway

/-- An amount between the sender of an action and another account. -/
structure Movement where
  type : OperationType
  amount : Nat
  counterparty : Address
  fromSender : Bool
  deriving DecidableEq

namespace Movement

/-- Where the other account of a movement is found. -/
inductive Counterparty where
  | account (text : String)
  | contract (text : String)
  | stakingPool
  | rewardingPool
  deriving DecidableEq

/-- The kind and the amount that a payload names, and its counterparty. Withdrawals and grants
name no amount. -/
def ofPayload? : Payload → Option (OperationType × String × Counterparty)
  | .transfer t => some (.nativeTransfer, t.amount, .account t.recipient)
  | .execution e => some (.inContractTransfer, e.amount, .contract e.contract)
  | .stakeCreate s => some (.createBucket, s.stakedAmount, .stakingPool)
  | .stakeAddDeposit s => some (.depositToBucket, s.amount, .stakingPool)
  | .candidateRegister c => some (.candidateSelfStake, c.stakedAmount, .stakingPool)
  | .depositToRewardingFund d => some (.depositToRewardingFund, d.amount, .rewardingPool)
  | .claimFromRewardingFund c => some (.claimFromRewardingFund, c.amount, .rewardingPool)
  | .stakeWithdraw _ | .grantReward _ | .stakeUnstake _ => none

/-- The account of a counterparty. A contract without address is the one that the receipt
says was created. -/
def Counterparty.address (receipt : Receipt) (pools : Pools) :
    Counterparty → Except LedgerError Address
  | .account text => (readAddress text).mapError .codec
  | .contract text =>
    if text = "" then
      match receipt.contractAddress with
      | some a => .ok a
      | none => .error (.missingContractAddress receipt.actionHash)
    else (readAddress text).mapError .codec
  | .stakingPool => .ok pools.staking
  | .rewardingPool => .ok pools.rewarding

/-- The movement of an action, if it has an amount other than zero. The counterparty is looked
at only then. -/
def ofAction (action : Action) (receipt : Receipt) (pools : Pools := {}) :
    Except LedgerError (Option Movement) := do
  let core ← action.requireCore.mapError .codec
  match core.payload.bind ofPayload? with
  | none => return none
  | some (type, amountText, counterparty) =>
    let amount ← (readAmount amountText).mapError .codec
    if amount = 0 then return none
    let other ← counterparty.address receipt pools
    return some ⟨type, amount, other, type != .claimFromRewardingFund⟩

/-- The posting between the sender and the counterparty. -/
def posting (m : Movement) (sender : Address) : Posting :=
  if m.fromSender then .balanced m.type sender m.counterparty m.amount
  else .balanced m.type m.counterparty sender m.amount

end Movement

end LedgerGateway
