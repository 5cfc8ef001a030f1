/-! How a node fails to answer. -/

namespace LedgerGateway

inductive NodeError where
  | unavailable (text : String)
  | notFound (text : String)
  | rejected (text : String)
  deriving DecidableEq

namespace NodeError

def message : NodeError → String
  | unavailable text => "node unavailable: " ++ text
  | notFound text => "not found: " ++ text
  | rejected text => "rejected by node: " ++ text

/-- Whether the same request may succeed later. -/
def isUnavailable : NodeError → Bool
  | unavailable _ => true
  | _ => false

end NodeError

end LedgerGateway
