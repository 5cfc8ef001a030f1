import LedgerGateway.Address
import LedgerGateway.Json
import LedgerGateway.Node.Error

/-! The numbered errors that clients are told about, and their bodies. -/

namespace LedgerGateway

inductive ErrorCode where
  | unableToGetChainId
  | invalidBlockchain
  | invalidSubnetwork
  | invalidNetwork
  | missingNetworkIdentifier
  | unableToGetLatestBlock
  | unableToGetGenesisBlock
  | unableToGetAccount
  | mustQueryByIndex
  | invalidAccountAddress
  | mustSpecifySubAccount
  | unableToGetBlock
  | notImplemented
  | unableToGetTransactions
  | unableToSubmitTransaction
  | unableToGetNextNonce
  | malformedValue
  | unableToGetNodeStatus
  | invalidInputParam
  | unsupportedPublicKeyType
  | unableToParseTransaction
  | invalidGasPrice
  | unmarshalProto
  | constructionCheck
  | serverError
  | exceededFee
  | unableToEstimateGas
  | unableToGetSuggestGas
  | invalidPublicKey
  | invalidSignature
  | unableToReachNode
  deriving DecidableEq

namespace ErrorCode

/-- All codes in the order of their numbers, which count from one. -/
def all : List ErrorCode :=
  [unableToGetChainId, invalidBlockchain, invalidSubnetwork, invalidNetwork,
   missingNetworkIdentifier, unableToGetLatestBlock, unableToGetGenesisBlock, unableToGetAccount,
   mustQueryByIndex, invalidAccountAddress, mustSpecifySubAccount, unableToGetBlock,
   notImplemented, unableToGetTransactions, unableToSubmitTransaction, unableToGetNextNonce,
   malformedValue, unableToGetNodeStatus, invalidInputParam, unsupportedPublicKeyType,
   unableToParseTransaction, invalidGasPrice, unmarshalProto, constructionCheck, serverError,
   exceededFee, unableToEstimateGas, unableToGetSuggestGas, invalidPublicKey, invalidSignature,
   unableToReachNode]

def number (c : ErrorCode) : Nat := all.idxOf c + 1

def ofNumber? (n : Nat) : Option ErrorCode := if n = 0 then none else all[n - 1]?

theorem ofNumber?_number (c : ErrorCode) : ofNumber? c.number = some c := by cases c <;> decide

def message : ErrorCode → String
  | unableToGetChainId => "unable to get chain ID"
  | invalidBlockchain => "invalid blockchain specified in network identifier"
  | invalidSubnetwork => "invalid sub-network identifier"
  | invalidNetwork => "invalid network specified in network identifier"
  | missingNetworkIdentifier => "network identifier is missing"
  | unableToGetLatestBlock => "unable to get latest block"
  | unableToGetGenesisBlock => "unable to get genesis block"
  | unableToGetAccount => "unable to get account"
  | mustQueryByIndex => "blocks must be queried by index and not hash"
  | invalidAccountAddress => "invalid account address"
  | mustSpecifySubAccount => "a valid subaccount must be specified"
  | unableToGetBlock => "unable to get block"
  | notImplemented => "operation not implemented"
  | unableToGetTransactions => "unable to get transactions"
  | unableToSubmitTransaction => "unable to submit transaction"
  | unableToGetNextNonce => "unable to get next nonce"
  | malformedValue => "malformed value"
  | unableToGetNodeStatus => "unable to get node status"
  | invalidInputParam => "invalid input param"
  | unsupportedPublicKeyType => "unsupported public key type"
  | unableToParseTransaction => "unable to parse transaction"
  | invalidGasPrice => "invalid gas price"
  | unmarshalProto => "proto unmarshal error"
  | constructionCheck => "operation construction check error"
  | serverError => "internal error"
  | exceededFee => "exceeded max fee"
  | unableToEstimateGas => "unable to estimate gas"
  | unableToGetSuggestGas => "unable to get suggest gas"
  | invalidPublicKey => "invalid public key"
  | invalidSignature => "invalid signature"
  | unableToReachNode => "unable to reach node"

/-- Whether a client may try again with the same request. -/
def isRetriable : ErrorCode → Bool
  | unableToGetChainId | unableToGetLatestBlock | unableToGetGenesisBlock | unableToGetAccount
  | unableToGetBlock | unableToGetTransactions | unableToGetNextNonce | unableToGetNodeStatus
  | exceededFee | unableToEstimateGas | unableToGetSuggestGas | unableToReachNode => true
  | _ => false

end ErrorCode

/-- An error as it is written in a response. -/
structure ErrorBody where
  code : Int32
  message : String
  retriable : Bool
  details : Option (List (String × Json)) := none

/-- The body of a code without details, as the catalog lists it. -/
def ErrorCode.body (c : ErrorCode) : ErrorBody :=
  { code := .ofNat c.number, message := c.message, retriable := c.isRetriable }

def catalog : List ErrorBody := ErrorCode.all.map ErrorCode.body

/-- A code and what is wrong with this request. -/
structure ApiError where
  code : ErrorCode
  details : Option String := none
  deriving DecidableEq

namespace ApiError

/-- The error of a failing node. While the node is unavailable another try may succeed, so that a
code that would forbid it gives way to one that allows it. -/
def ofNode (code : ErrorCode) (e : NodeError) : ApiError :=
  if e.isUnavailable && !code.isRetriable then ⟨.unableToReachNode, some e.message⟩
  else ⟨code, some e.message⟩

def text (e : ApiError) : String :=
  match e.details with
  | some details => e.code.message ++ ": " ++ details
  | none => e.code.message

def body (e : ApiError) : ErrorBody :=
  { e.code.body with details := e.details.map fun d => [("context", Json.text d)] }

end ApiError

/-- The error of a request that names an account by a bad text. -/
def AddressError.api (e : AddressError) : ApiError := ⟨.invalidAccountAddress, some e.message⟩

end LedgerGateway
