import LedgerGateway.Address
import LedgerGateway.Json
import LedgerGateway.Ledger.Amount
import LedgerGateway.Ledger.OperationType

/-! Postings: an amount that leaves one account and an amount that reaches another. -/

namespace LedgerGateway

/-- The two amounts are equal except for fees that were charged twice. -/
structure Posting where
  type : OperationType
  debit : Address
  credit : Address
  debitAmount : Nat
  creditAmount : Nat
  metadata : Option (List (String × Json)) := none

def Posting.balanced (type : OperationType) (debit credit : Address) (amount : Nat) : Posting :=
  { type, debit, credit, debitAmount := amount, creditAmount := amount }

/-- The accounts that the protocol keeps for itself. -/
structure Pools where
  rewarding : Address := Address.rewardingPool
  staking : Address := Address.stakingPool
  deriving DecidableEq

/-- What the reading of a block depends on besides the block. -/
structure LedgerContext where
  currency : Currency := .native
  pools : Pools := {}
  /-- The first height at which the fee of an execution is charged once. -/
  pacificHeight : UInt64 := 432001
  deriving DecidableEq

end LedgerGateway
