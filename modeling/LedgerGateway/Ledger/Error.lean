import LedgerGateway.Action.Receipt
import LedgerGateway.Catalog

/-! Why a block or a transaction cannot be shown. -/

namespace LedgerGateway

inductive LedgerError where
  | codec (error : CodecError)
  | missingReceipt (hash : ActionHash)
  | orphanLog (hash : ActionHash)
  | missingContractAddress (hash : ActionHash)
  | invalidGasPrice (hash : ActionHash) (value : String)
  | transactionNotFound (text : String)
  | node (error : NodeError)
  deriving DecidableEq

def LedgerError.message : LedgerError → String
  | .codec error => "malformed chain data: " ++ error.message
  | .missingReceipt hash => "no receipt for action " ++ hash.text
  | .orphanLog hash =>
    "transfer log references action " ++ hash.text ++ " which is not in the block"
  | .missingContractAddress hash =>
    "contract creation " ++ hash.text ++ " has no contract address in its receipt"
  | .invalidGasPrice hash value => "invalid gas price '" ++ value ++ "' in action " ++ hash.text
  | .transactionNotFound text => "transaction " ++ text ++ " not found"
  | .node error => error.message

/-- The code of a block that does not hold together differs from that of a value nobody can read. -/
def LedgerError.api (e : LedgerError) : ApiError :=
  match e with
  | .node error => .ofNode .unableToGetBlock error
  | .transactionNotFound _ => ⟨.unableToGetTransactions, some e.message⟩
  | .missingReceipt _ | .orphanLog _ => ⟨.unableToGetBlock, some e.message⟩
  | .codec _ | .missingContractAddress _ | .invalidGasPrice _ _ => ⟨.malformedValue, some e.message⟩

end LedgerGateway
