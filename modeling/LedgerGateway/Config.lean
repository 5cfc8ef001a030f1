import LedgerGateway.Construction.Draft
import LedgerGateway.Ledger.Posting
import LedgerGateway.Release
import LedgerGateway.Text.Blank

/-! What a gateway is set up with. Whatever is not set is as on the main network. -/

namespace LedgerGateway

structure NetworkConfig where
  blockchain : String := "IoTeX"
  network : String := "mainnet"
  chainId : UInt32 := 1
  deriving DecidableEq

/-- The identifiers of the main and the test network. -/
def NetworkConfig.chainIds : List UInt32 := [1, 2]

structure ServerConfig where
  port : UInt16 := 8080
  metricsPort : UInt16 := 9100
  interfaceVersion : String := Release.interface
  /-- Where a node would be reached, for those who connect one. -/
  endpoint : Option String := none
  secureEndpoint : Bool := false
  deriving DecidableEq

structure GatewayConfig where
  network : NetworkConfig := {}
  currency : Currency := .native
  server : ServerConfig := {}
  pacificHeight : UInt64 := ({} : LedgerContext).pacificHeight
  deriving DecidableEq

/-- What a gateway cannot be run with, or what a document cannot hold. -/
inductive ConfigFault where
  | emptyBlockchain
  | emptyNetwork
  | zeroChainId
  | emptySymbol
  | samePort (port : UInt16)
  | outOfRange
  deriving DecidableEq

def ConfigFault.message : ConfigFault → String
  | .emptyBlockchain => "network.blockchain is empty"
  | .emptyNetwork => "network.network is empty"
  | .zeroChainId => "network.chain_id must be non-zero"
  | .emptySymbol => "currency.symbol is empty"
  | .samePort port => "server.port and server.metrics_port are both " ++ Decimal.natText port.toNat
  | .outOfRange => "out-of-range value for u64 type"

inductive ConfigError where
  | unreadable
  | malformed
  | invalid (fault : ConfigFault)
  deriving DecidableEq

def ConfigError.message : ConfigError → String
  | .unreadable => "unable to read config"
  | .malformed => "unable to parse config"
  | .invalid fault => "invalid config: " ++ fault.message

namespace GatewayConfig

def isEmpty (s : String) : Bool := (Text.trimChars s.toList).isEmpty

/-- The first fault of a configuration. -/
def fault? (c : GatewayConfig) : Option ConfigFault :=
  if isEmpty c.network.blockchain then some .emptyBlockchain
  else if isEmpty c.network.network then some .emptyNetwork
  else if c.network.chainId = 0 then some .zeroChainId
  else if isEmpty c.currency.symbol then some .emptySymbol
  else if c.server.port = c.server.metricsPort then some (.samePort c.server.port)
  else none

/-- The configuration itself, when it has no fault. -/
def validate (c : GatewayConfig) : Except ConfigError GatewayConfig :=
  match c.fault? with
  | some fault => .error (.invalid fault)
  | none => .ok c

def ledgerContext (c : GatewayConfig) : LedgerContext :=
  { currency := c.currency, pacificHeight := c.pacificHeight }

def constructionContext (c : GatewayConfig) : ConstructionContext :=
  { currency := c.currency, chainId := c.network.chainId }

end GatewayConfig

end LedgerGateway
