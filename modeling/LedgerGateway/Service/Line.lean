import LedgerGateway.Json.Printer
import LedgerGateway.Service

/-! Requests and responses as text, for a gateway that is spoken to line by line. -/

namespace LedgerGateway

/-- Reads a method, a path and a body with a blank between each two. -/
def Request.ofLine (line : String) : Request :=
  let (method, rest) := line.toList.span (· != ' ')
  let (path, rest) := (rest.drop 1).span (· != ' ')
  { method := .ofList method, path := .ofList path, contentType := some "application/json",
    body := .ofList (rest.drop 1) }

/-- The status of a response and its body. -/
def Response.text (r : Response) : String :=
  let status := Decimal.natText r.status
  match r.body with
  | .empty => status
  | .json j => status ++ " " ++ j.toText
  | .lines ls => "\n".intercalate (status :: ls)

/-- What a gateway without a node says to a line, counts included. -/
def Gateway.serveLine (config : GatewayConfig) (line : String) (m : Metrics) : Response × Metrics :=
  let r := Request.ofLine line
  let g : Gateway := { config, online := false }
  if r.route == Metrics.path then (m.serve r, m)
  else ((g.serve r m).run fun _ => .error (.unavailable "")).1

end LedgerGateway
