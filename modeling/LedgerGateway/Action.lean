import LedgerGateway.Bytes

/-! Actions: what an account signs and the chain executes. The core holds what is signed; the
envelope adds the public key and the signature of the sender. -/

namespace LedgerGateway

structure Transfer where
  amount : String := ""
  recipient : String := ""
  payload : Bytes := []
  deriving DecidableEq

structure Execution where
  amount : String := ""
  contract : String := ""
  data : Bytes := []
  deriving DecidableEq

/-- An amount that moves into or out of the rewarding fund. -/
structure FundMovement where
  amount : String := ""
  data : Bytes := []
  deriving DecidableEq

structure GrantReward where
  rewardType : Int32 := 0
  height : UInt64 := 0
  deriving DecidableEq

structure StakeCreate where
  candidateName : String := ""
  stakedAmount : String := ""
  stakedDuration : UInt32 := 0
  autoStake : Bool := false
  payload : Bytes := []
  deriving DecidableEq

structure StakeReclaim where
  bucketIndex : UInt64 := 0
  payload : Bytes := []
  deriving DecidableEq

structure StakeAddDeposit where
  bucketIndex : UInt64 := 0
  amount : String := ""
  payload : Bytes := []
  deriving DecidableEq

structure CandidateInfo where
  name : String := ""
  operatorAddress : String := ""
  rewardAddress : String := ""
  deriving DecidableEq

structure CandidateRegister where
  candidate : Option CandidateInfo := none
  stakedAmount : String := ""
  stakedDuration : UInt32 := 0
  autoStake : Bool := false
  ownerAddress : String := ""
  payload : Bytes := []
  deriving DecidableEq

inductive Payload where
  | transfer (body : Transfer)
  | execution (body : Execution)
  | depositToRewardingFund (body : FundMovement)
  | claimFromRewardingFund (body : FundMovement)
  | grantReward (body : GrantReward)
  | stakeCreate (body : StakeCreate)
  | stakeUnstake (body : StakeReclaim)
  | stakeWithdraw (body : StakeReclaim)
  | stakeAddDeposit (body : StakeAddDeposit)
  | candidateRegister (body : CandidateRegister)
  deriving DecidableEq

def Payload.name : Payload → String
  | .transfer _ => "transfer"
  | .execution _ => "execution"
  | .depositToRewardingFund _ => "depositToRewardingFund"
  | .claimFromRewardingFund _ => "claimFromRewardingFund"
  | .grantReward _ => "grantReward"
  | .stakeCreate _ => "stakeCreate"
  | .stakeUnstake _ => "stakeUnstake"
  | .stakeWithdraw _ => "stakeWithdraw"
  | .stakeAddDeposit _ => "stakeAddDeposit"
  | .candidateRegister _ => "candidateRegister"

/-- The signed part of an action. -/
structure ActionCore where
  version : UInt32 := 0
  nonce : UInt64 := 0
  gasLimit : UInt64 := 0
  gasPrice : String := ""
  chainId : UInt32 := 0
  payload : Option Payload := none
  deriving DecidableEq

structure Action where
  core : Option ActionCore := none
  senderKey : Bytes := []
  signature : Bytes := []
  deriving DecidableEq

/-- A core on its way to a signer, with the text of the address that is to sign. -/
structure UnsignedAction where
  core : Bytes := []
  sender : String := ""
  deriving DecidableEq

end LedgerGateway
