/-! What this gateway is called, and which protocols it speaks. -/

namespace LedgerGateway.Release

def name : String := "iotex-rosetta-gateway"

def version : String := "0.1.0"

/-- The version of the interface that clients see. -/
def interface : String := "1.4.10"

/-- The version of a node that does not tell its own. -/
def node : String := "v1.1.0"

end LedgerGateway.Release
