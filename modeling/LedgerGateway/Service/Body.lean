import LedgerGateway.Json.Record
import LedgerGateway.Json.Skip
import LedgerGateway.Service.MediaType

/-! Bodies of requests: an object that tells the network the request is meant for, beside the
members of the request itself. The network is read as it is met, the members after the whole object
has been read. -/

namespace LedgerGateway

structure NetworkIdentifier where
  blockchain : String
  network : String
  subNetwork : Option Json := none

namespace NetworkIdentifier

def toJson (n : NetworkIdentifier) : Json :=
  .object (Json.present [
    ("blockchain", some (.text n.blockchain)),
    ("network", some (.text n.network)),
    ("sub_network_identifier", n.subNetwork)])

/-- Reads a value that must be a text. -/
def textValue : Json.Reader String := fun cs =>
  match Json.skipBlank cs with
  | '[' :: _ | '\x7b' :: _ => .error .shape
  | cs => do
    match ← Json.scalar cs with
    | (.text s, rest) => return (s, rest)
    | _ => throw .shape

/-- Reads any value, null counting as none. -/
def optionalValue (depth : Nat) : Json.Reader (Option Json) := fun cs => do
  match ← Json.value depth cs with
  | (.null, rest) => return (none, rest)
  | (v, rest) => return (some v, rest)

/-- The members that have been met. -/
structure Met where
  blockchain : Option String := none
  network : Option String := none
  subNetwork : Option (Option Json) := none

/-- Reads one member of an identifier. None may come twice, and unknown ones are skipped. -/
def member (depth : Nat) (m : Met) (key : String) : Json.Reader Met := fun cs => do
  match key with
  | "blockchain" =>
    if m.blockchain.isSome then throw .shape
    let (s, rest) ← textValue (← Json.afterColon cs)
    return ({ m with blockchain := some s }, rest)
  | "network" =>
    if m.network.isSome then throw .shape
    let (s, rest) ← textValue (← Json.afterColon cs)
    return ({ m with network := some s }, rest)
  | "sub_network_identifier" =>
    if m.subNetwork.isSome then throw .shape
    let (v, rest) ← optionalValue depth (← Json.afterColon cs)
    return ({ m with subNetwork := some v }, rest)
  | _ =>
    let (_, rest) ← Json.Skip.value (← Json.afterColon cs)
    return (m, rest)

/-- Goes to the next item of a list, if there is one. -/
def nextItem (first : Bool) (cs : List Char) : Except Json.Fault (Option (List Char)) :=
  match Json.skipBlank cs with
  | [] => .error .form
  | ']' :: _ => .ok none
  | c :: rest =>
    if first then .ok (some (c :: rest))
    else if c ≠ ',' then .error .form
    else
      match Json.skipBlank rest with
      | [] | ']' :: _ => .error .form
      | cs => .ok (some cs)

/-- Reads an item that must be there. -/
def item {α : Type} (first : Bool) (read : Json.Reader α) : Json.Reader α := fun cs => do
  match ← nextItem first cs with
  | some cs => read cs
  | none => throw .shape

/-- Reads the fields as a list, after its opening bracket. -/
def items (depth : Nat) : Json.Reader NetworkIdentifier := fun cs => do
  let (blockchain, cs) ← item true textValue cs
  let (network, cs) ← item false textValue cs
  let (subNetwork, cs) ← match ← nextItem false cs with
    | some cs => optionalValue depth cs
    | none => pure (none, cs)
  match Json.skipBlank cs with
  | ']' :: rest => return (⟨blockchain, network, subNetwork⟩, rest)
  | _ => throw .form

/-- Reads an identifier whose values may be nested less than `depth` deep, or null. -/
def read (depth : Nat) : Json.Reader (Option NetworkIdentifier) := fun cs => do
  match Json.skipBlank cs with
  | '[' :: rest =>
    let (n, rest) ← items depth rest
    return (some n, rest)
  | '\x7b' :: rest =>
    match ← Json.members Json.afterQuote (member depth) {} rest with
    | (⟨some blockchain, some network, subNetwork⟩, rest) =>
      return (some ⟨blockchain, network, subNetwork.getD none⟩, rest)
    | _ => throw .shape
  | cs =>
    match ← Json.scalar cs with
    | (.null, rest) => return (none, rest)
    | _ => throw .shape

end NetworkIdentifier

/-- A body that has been read. -/
structure RequestBody where
  network : Option NetworkIdentifier
  members : List (String × Json)

/-- Why a body is not read. -/
inductive BodyFault where
  | mediaType
  | size
  | json (fault : Json.Fault)
  deriving DecidableEq

def BodyFault.message : BodyFault → String
  | .mediaType => "Expected request with \x60Content-Type: application/json\x60"
  | .size => "Failed to buffer the request body: length limit exceeded"
  | .json .form => "Failed to parse the request body as JSON"
  | .json .shape => "Failed to deserialize the JSON body into the target type"

namespace RequestBody

/-- The key of the network. -/
def networkKey : String := "network_identifier"

/-- The network, once it has been met, and the other members, the last one first. -/
structure Met where
  network : Option (Option NetworkIdentifier) := none
  members : List (String × Json) := []

def member (m : Met) (key : String) : Json.Reader Met := fun cs => do
  if key = networkKey then
    if m.network.isSome then throw .shape
    let (n, rest) ← NetworkIdentifier.read (Json.maxDepth - 2) (← Json.afterColon cs)
    return ({ m with network := some n }, rest)
  else
    let (v, rest) ← Json.value (Json.maxDepth - 1) (← Json.afterColon cs)
    return ({ m with members := (key, v) :: m.members }, rest)

/-- Reads the first value of a text, which must be an object. -/
def parse (s : String) : Except Json.Fault RequestBody :=
  match Json.skipBlank s.toList with
  | '\x7b' :: rest => do
    let (m, _) ← Json.members Json.afterQuote member {} rest
    return ⟨m.network.getD none, m.members.reverse⟩
  | '[' :: _ => .error .shape
  | cs => do
    let _ ← Json.scalar cs
    throw .shape

/-- Reads the members as a record. -/
def record {α : Type} (b : RequestBody) (names : List String)
    (build : Json.Record → Json.Reading α) : Except BodyFault α :=
  (Json.Record.ofMembers names build b.members).mapError fun _ => .json .shape

/-- The greatest number of octets in a body, two binary megabytes. -/
def sizeLimit : Nat := 0x200000

/-- Reads a body of some content type. -/
def ofText (contentType : Option String) (s : String) : Except BodyFault RequestBody :=
  if (contentType.map MediaType.isJson).getD false then
    if s.utf8ByteSize ≤ sizeLimit then (parse s).mapError .json else .error .size
  else .error .mediaType

end RequestBody

end LedgerGateway
