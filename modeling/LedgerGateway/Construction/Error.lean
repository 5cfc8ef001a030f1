import LedgerGateway.Binary64.Shortest
import LedgerGateway.Catalog
import LedgerGateway.Action.Error
import LedgerGateway.Ledger.Amount
import LedgerGateway.Ledger.OperationType

/-! Why a transaction cannot be constructed, parsed or submitted. -/

namespace LedgerGateway

/-- Why operations are not the two of a transfer. -/
inductive PairFault where
  | count (got : Nat)
  | type (got : OperationType)
  | currency (got : Currency)
  | unbalanced
  | negativeCredit
  | sender (error : AddressError)
  | recipient (error : AddressError)
  deriving DecidableEq

def PairFault.message : PairFault → String
  | .count got => "expected 2 operations, got " ++ toString got
  | .type got => "unsupported operation type " ++ got.name
  | .currency got => "invalid currency " ++ got.symbol ++ "/" ++ Decimal.natText got.decimals.toNat
  | .unbalanced => "amount value don't match"
  | .negativeCredit => "credit amount is negative"
  | .sender error => "invalid sender address: " ++ error.message
  | .recipient error => "invalid recipient address: " ++ error.message

/-- What is wrong with the parameters around the operations. -/
inductive InputFault where
  | negativeMaxFee
  | maxFeeCount (got : Nat)
  | multiplier (got : Binary64)
  | notUnsigned (key : String)
  | keyOfOther (signer sender : Address)
  | signatureCount (got : Nat)
  | notTransfer (payload : String)
  deriving DecidableEq

def InputFault.message : InputFault → String
  | .negativeMaxFee => "max_fee must not be negative"
  | .maxFeeCount got => "expected at most 1 max_fee amount, got " ++ toString got
  | .multiplier got => "suggested_fee_multiplier must be a positive number, got " ++ got.plainText
  | .notUnsigned key => key ++ " must be an unsigned integer"
  | .keyOfOther signer sender =>
    "public key belongs to " ++ signer.text ++ ", not sender " ++ sender.text
  | .signatureCount got => "need exactly 1 signature, got " ++ toString got
  | .notTransfer payload => payload ++ " actions are not constructed here"

/-- Why a signature does not sign the transaction. -/
inductive SignatureFault where
  | keyOfOther (sender : Address)
  | hex (fault : Hex.Fault)
  | key (error : KeyError)
  | envelope (error : CodecError)
  deriving DecidableEq

def SignatureFault.message : SignatureFault → String
  | .keyOfOther sender => "public key does not belong to sender " ++ sender.text
  | .hex fault => fault.message
  | .key error => error.message
  | .envelope error => error.message

/-- Why there is no gas price. -/
inductive GasPriceFault where
  | overflow (price : UInt64) (multiplier : Binary64)
  | text (got : String)
  deriving DecidableEq

def GasPriceFault.message : GasPriceFault → String
  | .overflow price multiplier =>
    Decimal.natText price.toNat ++ " x " ++ multiplier.plainText ++ " overflows"
  | .text got => got

inductive ConstructionError where
  | unsupportedCurve (name : String)
  | invalidPublicKey (error : KeyError)
  | check (fault : PairFault)
  | invalidInput (fault : InputFault)
  | invalidSignature (fault : SignatureFault)
  | unmarshal (error : CodecError)
  | parse (error : CodecError)
  | invalidGasPrice (fault : GasPriceFault)
  | exceededFee (fee max : Nat)
  | nonce (error : NodeError)
  | estimateGas (error : NodeError)
  | suggestGasPrice (error : NodeError)
  | submit (error : NodeError)
  deriving DecidableEq

namespace ConstructionError

def message : ConstructionError → String
  | unsupportedCurve name => "unsupported curve type '" ++ name ++ "'"
  | invalidPublicKey error => "invalid public key: " ++ error.message
  | check fault => fault.message
  | invalidInput fault => fault.message
  | invalidSignature fault => "invalid signature: " ++ fault.message
  | unmarshal error => "unable to decode transaction: " ++ error.message
  | parse error => "unable to parse transaction: " ++ error.message
  | invalidGasPrice fault => "invalid gas price: " ++ fault.message
  | exceededFee fee max =>
    "suggested fee " ++ Decimal.natText fee ++ " exceeds max fee " ++ Decimal.natText max
  | nonce error => "unable to get next nonce: " ++ error.message
  | estimateGas error => "unable to estimate gas: " ++ error.message
  | suggestGasPrice error => "unable to get suggested gas price: " ++ error.message
  | submit error => "unable to submit transaction: " ++ error.message

/-- A failure of the node is told in the node's words alone. -/
def api (e : ConstructionError) : ApiError :=
  match e with
  | unsupportedCurve _ => ⟨.unsupportedPublicKeyType, some e.message⟩
  | invalidPublicKey _ => ⟨.invalidPublicKey, some e.message⟩
  | check _ => ⟨.constructionCheck, some e.message⟩
  | invalidInput _ => ⟨.invalidInputParam, some e.message⟩
  | invalidSignature _ => ⟨.invalidSignature, some e.message⟩
  | unmarshal _ => ⟨.unmarshalProto, some e.message⟩
  | parse _ => ⟨.unableToParseTransaction, some e.message⟩
  | invalidGasPrice _ => ⟨.invalidGasPrice, some e.message⟩
  | exceededFee _ _ => ⟨.exceededFee, some e.message⟩
  | nonce error => .ofNode .unableToGetNextNonce error
  | estimateGas error => .ofNode .unableToEstimateGas error
  | suggestGasPrice error => .ofNode .unableToGetSuggestGas error
  | submit error => .ofNode .unableToSubmitTransaction error

end ConstructionError

end LedgerGateway
