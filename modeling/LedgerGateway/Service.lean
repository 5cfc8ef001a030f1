import LedgerGateway.Service.Endpoint
import LedgerGateway.Service.Lookup
import LedgerGateway.Service.Metrics
import LedgerGateway.Service.Network

/-! The service of a gateway: every request gets one response, and is counted. -/

namespace LedgerGateway

structure Request where
  method : String
  path : String
  contentType : Option String := none
  body : String := ""

inductive ResponseBody where
  | empty
  | json (value : Json)
  | lines (text : List String)

structure Response where
  status : Nat
  body : ResponseBody := .empty

namespace Request

/-- Whether a character may stand in the name of a scheme. -/
def isSchemeChar (c : Char) : Bool := c.isAlphanum || c == '+' || c == '-' || c == '.' || c == '~'

/-- The text after a scheme and a host, if it begins with them. -/
def afterHost (cs : List Char) : List Char :=
  match cs.dropWhile isSchemeChar with
  | ':' :: '/' :: '/' :: rest => rest.dropWhile fun c => c != '/' && c != '?' && c != '#'
  | _ => cs

/-- The path without a scheme and a host before it and without what follows a question mark or
a number sign. -/
def route (r : Request) : String :=
  String.ofList ((afterHost r.path.toList).takeWhile fun c => c != '?' && c != '#')

end Request

namespace Response

/-- An answer, without its body when there was only a probe for it. -/
def found (method : String) (body : ResponseBody) : Response :=
  ⟨200, if method == "HEAD" then .empty else body⟩

def unknownPath : Response := { status := 404 }

def wrongMethod : Response := { status := 405 }

def ofResult (method : String) : Except ApiError Json → Response
  | .ok answer => found method (.json answer)
  | .error e => ⟨500, .json e.body.toJson⟩

end Response

namespace Gateway

/-- Reads the members of a body as a request to an endpoint, and tells how that is answered. -/
def plan (g : Gateway) (e : AddressedEndpoint) (members : List (String × Json)) :
    Json.Fit (Talk Outcome) := do
  let request := Json.object members
  match e with
  | .networkOptions => return g.options.outcome
  | .networkStatus => return g.status.outcome
  | .mempool => return g.mempool.outcome
  | .accountBalance => return (g.accountBalance (← AccountQuery.ofJson request)).outcome
  | .block => return g.block (← BlockQuery.ofJson request)
  | .blockTransaction => return (g.blockTransaction (← TransactionQuery.ofJson request)).outcome
  | .construction stage =>
    let act ← stage.respond g.config.constructionContext .nullOrEmpty request
    let needed := if stage.needsNode then g.requireNode else .ok ()
    return Serving.outcome do
      Talk.ofExcept needed
      act.adapt ConstructionError.api

/-- How a request is answered, unless it is refused: first for its body, then for its network. -/
def accept (g : Gateway) (e : AddressedEndpoint) (r : Request) :
    Except ApiError (Talk Outcome) := do
  let body ← (RequestBody.ofText r.contentType r.body).mapError BodyFault.api
  let talk ← (g.plan e body.members).mapError fun _ => BodyFault.api (.json .shape)
  g.checkNetwork body.network
  return talk

/-- How a request to an endpoint ends. -/
def answer (g : Gateway) (e : Endpoint) (r : Request) : Talk Outcome :=
  match e with
  | .health => pure { result := .ok g.health }
  | .networkList => pure { result := .ok g.networks }
  | .mempoolTransaction => pure { result := .error ⟨.notImplemented, none⟩ }
  | .addressed e =>
    match g.accept e r with
    | .ok talk => talk
    | .error error => pure { result := .error error }

/-- The response to a request. What a browser asks before a request is allowed for every path
and not counted. -/
def serve (g : Gateway) (r : Request) (m : Metrics) : Talk (Response × Metrics) :=
  if r.method == "OPTIONS" then pure (⟨200, .empty⟩, m)
  else
    match Endpoint.ofPath? r.route with
    | none => pure (.unknownPath, m)
    | some e =>
      if e.allows r.method then do
        let outcome ← g.answer e r
        return (.ofResult r.method outcome.result, m.record e outcome)
      else pure (.wrongMethod, m.countRequest e)

end Gateway

/-- The path of the counts. -/
def Metrics.path : String := "/metrics"

/-- The page of the counts, which is itself not counted. -/
def Metrics.serve (m : Metrics) (r : Request) : Response :=
  if r.route != Metrics.path then .unknownPath
  else if r.method == "GET" || r.method == "HEAD" then .found r.method (.lines m.lines)
  else .wrongMethod

end LedgerGateway
