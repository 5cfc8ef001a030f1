import LedgerGateway.Ledger.Format
import LedgerGateway.Service.Gateway

/-! What a gateway tells about its network. -/

namespace LedgerGateway

/-- The first and the latest block of a chain. -/
structure ChainStatus where
  genesis : BlockIdentifier
  current : BlockIdentifier
  timestamp : Int64
  deriving DecidableEq

namespace ChainStatus

/-- The height of the first block. -/
def genesisHeight : UInt64 := 1

def fetch : ExceptT ApiError Talk ChainStatus := do
  let height ← Talk.query .chainHeight (.ofNode .unableToGetNodeStatus)
  let current ← Talk.query (.rawBlock height) (.ofNode .unableToGetNodeStatus)
  let genesis ← Talk.query (.rawBlock genesisHeight) (.ofNode .unableToGetGenesisBlock)
  return ⟨⟨genesis.height, genesis.hash⟩, ⟨current.height, current.hash⟩, current.timestamp⟩

/-- Peers are not told. -/
def toJson (s : ChainStatus) : Json :=
  .object [("current_block_identifier", s.current.toJson),
    ("current_block_timestamp", .integer s.timestamp.toInt),
    ("genesis_block_identifier", s.genesis.toJson), ("peers", .array [])]

end ChainStatus

namespace Gateway

def health (g : Gateway) : Json :=
  .object [("status", .text "ok"), ("mode", .text (if g.online then "online" else "offline"))]

/-- The one network of the gateway. -/
def networks (g : Gateway) : Json :=
  let own : NetworkIdentifier := ⟨g.config.network.blockchain, g.config.network.network, none⟩
  .object [("network_identifiers", .array [own.toJson])]

/-- The version of the node, as far as it tells one. -/
def nodeVersion (g : Gateway) : ExceptT ApiError Talk String := do
  if g.online then
    let version ← Talk.query .serverVersion (.ofNode .unableToGetNodeStatus)
    return (version.filter (· ≠ "")).getD Release.node
  else return Release.node

/-- What transactions and errors may look like. -/
def vocabulary : Json :=
  .object [
    ("operation_statuses", .array (OperationStatus.all.map fun s =>
      .object [("status", s.toJson), ("successful", .bool s.isSuccessful)])),
    ("operation_types", .array (OperationType.all.map OperationType.toJson)),
    ("errors", .array (catalog.map ErrorBody.toJson)),
    ("historical_balance_lookup", .bool false)]

/-- Versions and vocabulary, which are told also without a node. -/
def options (g : Gateway) : Serving := do
  let node ← g.nodeVersion
  return .object [
    ("version", .object [("rosetta_version", .text g.config.server.interfaceVersion),
      ("node_version", .text node), ("middleware_version", .text Release.version)]),
    ("allow", vocabulary)]

def status (g : Gateway) : Serving := do
  Talk.ofExcept g.requireNode
  return (← ChainStatus.fetch).toJson

/-- The names of the actions that wait for their block. -/
def mempool (g : Gateway) : Serving := do
  Talk.ofExcept g.requireNode
  let waiting ← Talk.query .mempool (.ofNode .unableToGetTransactions)
  return .object
    [("transaction_identifiers", .array (waiting.map fun hash => hashToJson hash.text))]

end Gateway

end LedgerGateway
