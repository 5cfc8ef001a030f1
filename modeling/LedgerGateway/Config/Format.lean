import LedgerGateway.Config
import LedgerGateway.Json.Record
import LedgerGateway.Ledger.Format
import LedgerGateway.Toml.Parser
import LedgerGateway.Toml.Printer

/-! The forms of configurations: JSON, and documents of tables, which have the same structure.
Nothing unknown may stand in either. -/

namespace LedgerGateway

open Json (Fit)

/-- Whether a list may hold more than the fields of the record that it stands for. Those of
documents may. -/
inductive Surplus where
  | refused
  | ignored
  deriving DecidableEq

/-- Reads a record without unknown members. -/
def readSection {α : Type} (surplus : Surplus) (names : List String)
    (build : Json.Record → Json.Reading α) : Json → Fit α
  | .object ms =>
    if ms.all fun m => names.contains m.1 then Json.Record.ofMembers names build ms
    else .error .shape
  | .array xs =>
    Json.Record.ofItems names build (if surplus = .ignored then xs.take names.length else xs)
  | _ => .error .shape

namespace NetworkConfig

def read (surplus : Surplus) : Json → Fit NetworkConfig :=
  let base : NetworkConfig := {}
  readSection surplus ["blockchain", "network", "chain_id"] fun r =>
    mk <$> r.withDefault "blockchain" base.blockchain Json.asText
      <*> r.withDefault "network" base.network Json.asText
      <*> r.withDefault "chain_id" base.chainId Json.asUInt32

def toJson (c : NetworkConfig) : Json :=
  .object [("blockchain", .text c.blockchain), ("network", .text c.network),
    ("chain_id", .integer c.chainId.toNat)]

end NetworkConfig

/-- Reads a currency, each part of which may be missing. -/
def Currency.readSection (surplus : Surplus) : Json → Fit Currency :=
  LedgerGateway.readSection surplus ["symbol", "decimals"] fun r =>
    mk <$> r.withDefault "symbol" native.symbol Json.asText
      <*> r.withDefault "decimals" native.decimals Json.asUInt32

namespace ServerConfig

def fields : List String :=
  ["port", "metrics_port", "rosetta_version", "endpoint", "secure_endpoint"]

def read (surplus : Surplus) : Json → Fit ServerConfig :=
  let base : ServerConfig := {}
  readSection surplus fields fun r =>
    mk <$> r.withDefault "port" base.port Json.asUInt16
      <*> r.withDefault "metrics_port" base.metricsPort Json.asUInt16
      <*> r.withDefault "rosetta_version" base.interfaceVersion Json.asText
      <*> r.optional "endpoint" Json.asText
      <*> r.withDefault "secure_endpoint" base.secureEndpoint Json.asBool

/-- A missing endpoint is left out. -/
def toJson (c : ServerConfig) : Json :=
  .object (Json.present [
    ("port", some (.integer c.port.toNat)), ("metrics_port", some (.integer c.metricsPort.toNat)),
    ("rosetta_version", some (.text c.interfaceVersion)), ("endpoint", c.endpoint.map Json.text),
    ("secure_endpoint", some (.bool c.secureEndpoint))])

end ServerConfig

namespace GatewayConfig

def readHeight (surplus : Surplus) : Json → Fit UInt64 :=
  readSection surplus ["pacific_block_height"] fun r =>
    r.withDefault "pacific_block_height" ({} : GatewayConfig).pacificHeight Json.asUInt64

def read (surplus : Surplus) : Json → Fit GatewayConfig :=
  let base : GatewayConfig := {}
  readSection surplus ["network", "currency", "server", "protocol"] fun r =>
    mk <$> r.withDefault "network" base.network (NetworkConfig.read surplus)
      <*> r.withDefault "currency" base.currency (Currency.readSection surplus)
      <*> r.withDefault "server" base.server (ServerConfig.read surplus)
      <*> r.withDefault "protocol" base.pacificHeight (readHeight surplus)

def ofJson : Json → Fit GatewayConfig := read .refused

def toJson (c : GatewayConfig) : Json :=
  .object [("network", c.network.toJson), ("currency", c.currency.toJson),
    ("server", c.server.toJson),
    ("protocol", .object [("pacific_block_height", .ofWord c.pacificHeight)])]

/-- Reads a document. -/
def ofToml (s : String) : Except ConfigError GatewayConfig :=
  match Toml.parse? s with
  | none => .error .malformed
  | some document => (read .ignored document).mapError fun _ => .malformed

def sections (c : GatewayConfig) : List Toml.Section :=
  [⟨"network", [("blockchain", .text c.network.blockchain), ("network", .text c.network.network),
     ("chain_id", .integer c.network.chainId.toNat)]⟩,
   ⟨"currency", [("symbol", .text c.currency.symbol),
     ("decimals", .integer c.currency.decimals.toNat)]⟩,
   ⟨"server", [("port", .integer c.server.port.toNat),
     ("metrics_port", .integer c.server.metricsPort.toNat),
     ("rosetta_version", .text c.server.interfaceVersion)] ++
     (c.server.endpoint.map fun e => ("endpoint", Toml.Scalar.text e)).toList ++
     [("secure_endpoint", .bool c.server.secureEndpoint)]⟩,
   ⟨"protocol", [("pacific_block_height", .integer c.pacificHeight.toNat)]⟩]

/-- The document of a configuration, with everything that is set. The numbers of documents have a
sign, so that the largest heights have no place in them. -/
def toToml (c : GatewayConfig) : Except ConfigError String :=
  if Toml.Number.isInteger c.pacificHeight.toNat then .ok (Toml.print c.sections)
  else .error (.invalid .outOfRange)

/-- Reads and checks the content of a file, if there is one. -/
def load (content : Option Bytes) : Except ConfigError GatewayConfig := do
  match content.bind Bytes.toText? with
  | none => throw .unreadable
  | some s => validate (← ofToml s)

end GatewayConfig

end LedgerGateway
