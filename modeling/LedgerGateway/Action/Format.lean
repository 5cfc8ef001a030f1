import LedgerGateway.Action
import LedgerGateway.Wire.Message

/-! The numbered fields of actions. The names of messages and fields appear in the faults of
readers. -/

namespace LedgerGateway

open Wire (Message Field)

def Transfer.format : Message Transfer where
  name := "Transfer"
  empty := {}
  fields := [
    .text 1 "amount" (·.amount) fun t v => { t with amount := v },
    .text 2 "recipient" (·.recipient) fun t v => { t with recipient := v },
    .octets 3 "payload" (·.payload) fun t v => { t with payload := v }]

def Execution.format : Message Execution where
  name := "Execution"
  empty := {}
  fields := [
    .text 1 "amount" (·.amount) fun t v => { t with amount := v },
    .text 2 "contract" (·.contract) fun t v => { t with contract := v },
    .octets 3 "data" (·.data) fun t v => { t with data := v }]

/-- Deposits and claims differ only in the name of their message. -/
def FundMovement.format (name : String) : Message FundMovement where
  name := name
  empty := {}
  fields := [
    .text 1 "amount" (·.amount) fun t v => { t with amount := v },
    .octets 2 "data" (·.data) fun t v => { t with data := v }]

/-- A negative number is written as the 64-bit word that has the same low bits. -/
def GrantReward.format : Message GrantReward where
  name := "GrantReward"
  empty := {}
  fields := [
    .number 1 "reward_type" (fun t => (t.rewardType.toInt % 0x10000000000000000).toNat)
      fun t v => { t with rewardType := Int32.ofNat v },
    .number 2 "height" (·.height.toNat) fun t v => { t with height := UInt64.ofNat v }]

def StakeCreate.format : Message StakeCreate where
  name := "StakeCreate"
  empty := {}
  fields := [
    .text 1 "candidate_name" (·.candidateName) fun t v => { t with candidateName := v },
    .text 2 "staked_amount" (·.stakedAmount) fun t v => { t with stakedAmount := v },
    .number 3 "staked_duration" (·.stakedDuration.toNat) fun t v =>
      { t with stakedDuration := UInt32.ofNat v },
    .number 4 "auto_stake" (·.autoStake.toNat) fun t v => { t with autoStake := v != 0 },
    .octets 5 "payload" (·.payload) fun t v => { t with payload := v }]

def StakeReclaim.format : Message StakeReclaim where
  name := "StakeReclaim"
  empty := {}
  fields := [
    .number 1 "bucket_index" (·.bucketIndex.toNat) fun t v =>
      { t with bucketIndex := UInt64.ofNat v },
    .octets 2 "payload" (·.payload) fun t v => { t with payload := v }]

def StakeAddDeposit.format : Message StakeAddDeposit where
  name := "StakeAddDeposit"
  empty := {}
  fields := [
    .number 1 "bucket_index" (·.bucketIndex.toNat) fun t v =>
      { t with bucketIndex := UInt64.ofNat v },
    .text 2 "amount" (·.amount) fun t v => { t with amount := v },
    .octets 3 "payload" (·.payload) fun t v => { t with payload := v }]

def CandidateInfo.format : Message CandidateInfo where
  name := "CandidateBasicInfo"
  empty := {}
  fields := [
    .text 1 "name" (·.name) fun t v => { t with name := v },
    .text 2 "operator_address" (·.operatorAddress) fun t v => { t with operatorAddress := v },
    .text 3 "reward_address" (·.rewardAddress) fun t v => { t with rewardAddress := v }]

def CandidateRegister.format : Message CandidateRegister where
  name := "CandidateRegister"
  empty := {}
  fields := [
    .nested 1 "candidate" CandidateInfo.format (·.candidate) fun t v =>
      { t with candidate := some v },
    .text 2 "staked_amount" (·.stakedAmount) fun t v => { t with stakedAmount := v },
    .number 3 "staked_duration" (·.stakedDuration.toNat) fun t v =>
      { t with stakedDuration := UInt32.ofNat v },
    .number 4 "auto_stake" (·.autoStake.toNat) fun t v => { t with autoStake := v != 0 },
    .text 5 "owner_address" (·.ownerAddress) fun t v => { t with ownerAddress := v },
    .octets 6 "payload" (·.payload) fun t v => { t with payload := v }]

/-- The numbers of the payload kinds. -/
def Payload.cases : List (Field.Case Payload) := [
  .of 10 Transfer.format .transfer fun | .transfer b => some b | _ => none,
  .of 12 Execution.format .execution fun | .execution b => some b | _ => none,
  .of 30 (FundMovement.format "DepositToRewardingFund") .depositToRewardingFund
    fun | .depositToRewardingFund b => some b | _ => none,
  .of 31 (FundMovement.format "ClaimFromRewardingFund") .claimFromRewardingFund
    fun | .claimFromRewardingFund b => some b | _ => none,
  .of 32 GrantReward.format .grantReward fun | .grantReward b => some b | _ => none,
  .of 40 StakeCreate.format .stakeCreate fun | .stakeCreate b => some b | _ => none,
  .of 41 StakeReclaim.format .stakeUnstake fun | .stakeUnstake b => some b | _ => none,
  .of 42 StakeReclaim.format .stakeWithdraw fun | .stakeWithdraw b => some b | _ => none,
  .of 43 StakeAddDeposit.format .stakeAddDeposit fun | .stakeAddDeposit b => some b | _ => none,
  .of 47 CandidateRegister.format .candidateRegister fun
    | .candidateRegister b => some b | _ => none]

def ActionCore.format : Message ActionCore where
  name := "ActionCore"
  empty := {}
  fields := [
    .number 1 "version" (·.version.toNat) fun t v => { t with version := UInt32.ofNat v },
    .number 2 "nonce" (·.nonce.toNat) fun t v => { t with nonce := UInt64.ofNat v },
    .number 3 "gas_limit" (·.gasLimit.toNat) fun t v => { t with gasLimit := UInt64.ofNat v },
    .text 4 "gas_price" (·.gasPrice) fun t v => { t with gasPrice := v },
    .number 5 "chain_id" (·.chainId.toNat) fun t v => { t with chainId := UInt32.ofNat v },
    .oneOf "payload" Payload.cases (·.payload) fun t v => { t with payload := some v }]

def Action.format : Message Action where
  name := "Action"
  empty := {}
  fields := [
    .nested 1 "core" ActionCore.format (·.core) fun t v => { t with core := some v },
    .octets 2 "sender_pub_key" (·.senderKey) fun t v => { t with senderKey := v },
    .octets 3 "signature" (·.signature) fun t v => { t with signature := v }]

def UnsignedAction.format : Message UnsignedAction where
  name := "UnsignedAction"
  empty := {}
  fields := [
    .octets 1 "core" (·.core) fun t v => { t with core := v },
    .text 2 "sender" (·.sender) fun t v => { t with sender := v }]

end LedgerGateway
