import LedgerGateway.Address
import LedgerGateway.Wire

/-! What can be wrong with an action or with the transfer logs of a block. -/

namespace LedgerGateway

inductive CodecError where
  | hex (fault : Hex.Fault)
  | decode (fault : Wire.Fault)
  | missingCore
  | missingPayload
  | key (error : KeyError)
  | address (text : String) (error : AddressError)
  | amount (text : String)
  | actionHash (text : String)
  | topic (octets : Bytes)
  | logType (number : Int)
  deriving DecidableEq

def CodecError.message : CodecError → String
  | .hex fault => "invalid hex: " ++ fault.message
  | .decode fault => "protobuf decode failed: " ++ fault.message
  | .missingCore => "action has no core"
  | .missingPayload => "action has no payload"
  | .key error => "invalid sender public key: " ++ error.message
  | .address text error => "invalid address '" ++ text ++ "': " ++ error.message
  | .amount text => "invalid amount '" ++ text ++ "'"
  | .actionHash text => "invalid action hash '" ++ text ++ "'"
  | .topic octets => "unknown transfer log topic " ++ Hex.encode octets
  | .logType number => "unknown transaction log type " ++ toString number

end LedgerGateway
