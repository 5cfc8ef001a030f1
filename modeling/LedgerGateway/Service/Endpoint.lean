import LedgerGateway.Construction.Stage

/-! What clients can ask for, and the paths for it. -/

namespace LedgerGateway

/-- The endpoints whose requests tell the network they are meant for. -/
inductive AddressedEndpoint where
  | networkOptions
  | networkStatus
  | accountBalance
  | block
  | blockTransaction
  | mempool
  | construction (stage : ConstructionStage)
  deriving DecidableEq

namespace AddressedEndpoint

def all : List AddressedEndpoint :=
  [networkOptions, networkStatus, accountBalance, block, blockTransaction, mempool] ++
    ConstructionStage.all.map construction

def path : AddressedEndpoint → String
  | networkOptions => "/network/options"
  | networkStatus => "/network/status"
  | accountBalance => "/account/balance"
  | block => "/block"
  | blockTransaction => "/block/transaction"
  | mempool => "/mempool"
  | construction stage => "/construction/" ++ stage.name

end AddressedEndpoint

inductive Endpoint where
  | health
  | networkList
  | mempoolTransaction
  | addressed (e : AddressedEndpoint)
  deriving DecidableEq

namespace Endpoint

def all : List Endpoint :=
  [health, networkList, mempoolTransaction] ++ AddressedEndpoint.all.map addressed

def path : Endpoint → String
  | health => "/health"
  | networkList => "/network/list"
  | mempoolTransaction => "/mempool/transaction"
  | addressed e => e.path

def ofPath? (s : String) : Option Endpoint := all.find? fun e => e.path == s

/-- Every path names its endpoint and no other. -/
theorem ofPath?_path (e : Endpoint) : ofPath? e.path = some e := by
  cases e with
  | addressed e =>
    cases e with
    | construction stage => cases stage <;> decide +kernel
    | _ => decide +kernel
  | _ => decide +kernel

/-- Only the health of the gateway is asked for without a body. What can be fetched can also be
probed. -/
def allows (e : Endpoint) (method : String) : Bool :=
  match e with
  | health => method == "GET" || method == "HEAD"
  | _ => method == "POST"

end Endpoint

end LedgerGateway
