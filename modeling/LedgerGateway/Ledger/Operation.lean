import LedgerGateway.Json
import LedgerGateway.Ledger.Amount
import LedgerGateway.Ledger.OperationType

/-! What clients see of the ledger: blocks of transactions, which are lists of operations, each of
which changes the balance of one account. -/

namespace LedgerGateway

structure Operation where
  index : UInt64
  related : List UInt64 := []
  type : OperationType
  status : Option OperationStatus := none
  account : String
  amount : Amount
  metadata : Option (List (String × Json)) := none

structure Transaction where
  hash : String
  operations : List Operation

structure BlockIdentifier where
  index : UInt64
  hash : String
  deriving DecidableEq

structure Block where
  identifier : BlockIdentifier
  parent : BlockIdentifier
  timestamp : Int64
  transactions : List Transaction

end LedgerGateway
