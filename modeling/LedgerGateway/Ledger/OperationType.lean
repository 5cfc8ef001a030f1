/-! The kinds of balance changes, with the names that clients see and the numbers that the node
logs. -/

namespace LedgerGateway

inductive OperationType where
  | inContractTransfer
  | withdrawBucket
  | createBucket
  | depositToBucket
  | candidateSelfStake
  | candidateRegistrationFee
  | gasFee
  | nativeTransfer
  | depositToRewardingFund
  | claimFromRewardingFund
  deriving DecidableEq

namespace OperationType

/-- All kinds, each at the place that is its number in the node's logs. -/
def all : List OperationType :=
  [inContractTransfer, withdrawBucket, createBucket, depositToBucket, candidateSelfStake,
   candidateRegistrationFee, gasFee, nativeTransfer, depositToRewardingFund, claimFromRewardingFund]

theorem mem_all (t : OperationType) : t ∈ all := by cases t <;> decide

def name : OperationType → String
  | inContractTransfer => "IN_CONTRACT_TRANSFER"
  | withdrawBucket => "WITHDRAW_BUCKET"
  | createBucket => "CREATE_BUCKET"
  | depositToBucket => "DEPOSIT_TO_BUCKET"
  | candidateSelfStake => "CANDIDATE_SELF_STAKE"
  | candidateRegistrationFee => "CANDIDATE_REGISTRATION_FEE"
  | gasFee => "GAS_FEE"
  | nativeTransfer => "NATIVE_TRANSFER"
  | depositToRewardingFund => "DEPOSIT_TO_REWARDING_FUND"
  | claimFromRewardingFund => "CLAIM_FROM_REWARDING_FUND"

theorem name_injective {a b : OperationType} (h : a.name = b.name) : a = b := by
  cases a <;> cases b <;> first | rfl | (exact absurd h (by decide))

def ofName? (s : String) : Option OperationType := all.find? fun t => t.name == s

theorem ofName?_name (t : OperationType) : ofName? t.name = some t := by cases t <;> decide

/-- The message about a name that is none of a kind. -/
def unknownName (s : String) : String := "unknown operation type '" ++ s ++ "'"

def ofLogType? (n : Int) : Option OperationType := if n < 0 then none else all[n.toNat]?

end OperationType

/-- What became of an operation. Only successful ones are listed in transactions. -/
inductive OperationStatus where
  | success
  | fail
  deriving DecidableEq

namespace OperationStatus

def all : List OperationStatus := [success, fail]

def name : OperationStatus → String
  | success => "SUCCESS"
  | fail => "FAIL"

def isSuccessful : OperationStatus → Bool
  | success => true
  | fail => false

def ofName? (s : String) : Option OperationStatus := all.find? fun t => t.name == s

theorem ofName?_name (t : OperationStatus) : ofName? t.name = some t := by cases t <;> decide

end OperationStatus

end LedgerGateway
