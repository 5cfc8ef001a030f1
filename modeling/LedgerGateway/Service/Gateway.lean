import LedgerGateway.Catalog
import LedgerGateway.Config
import LedgerGateway.Node
import LedgerGateway.Service.Body

/-! A gateway, and the requests that it refuses whatever they ask for. -/

namespace LedgerGateway

structure Gateway where
  config : GatewayConfig := {}
  /-- Whether a node stands behind the gateway. -/
  online : Bool := true
  deriving DecidableEq

/-- How a request ends, and whether it came to the fetching of a block. -/
structure Outcome where
  result : Except ApiError Json
  fetchedBlock : Bool := false

/-- A conversation that ends with an answer or with an error. -/
abbrev Serving := ExceptT ApiError Talk Json

/-- The outcome of a conversation in which no block is fetched. -/
def Serving.outcome (a : Serving) : Talk Outcome := do return { result := ← a.run }

def BodyFault.api (fault : BodyFault) : ApiError := ⟨.invalidInputParam, some fault.message⟩

namespace Gateway

/-- Refuses what is not meant for the network of the gateway. -/
def checkNetwork (g : Gateway) : Option NetworkIdentifier → Except ApiError Unit
  | none => .error ⟨.missingNetworkIdentifier, none⟩
  | some n =>
    if n.blockchain ≠ g.config.network.blockchain then
      .error ⟨.invalidBlockchain, some n.blockchain⟩
    else if n.subNetwork.isSome then .error ⟨.invalidSubnetwork, none⟩
    else if n.network ≠ g.config.network.network then .error ⟨.invalidNetwork, some n.network⟩
    else .ok ()

/-- Refuses what only a node knows when there is none. -/
def requireNode (g : Gateway) : Except ApiError Unit :=
  if g.online then .ok ()
  else .error ⟨.unableToReachNode, some "gateway is running in offline mode"⟩

end Gateway

end LedgerGateway
