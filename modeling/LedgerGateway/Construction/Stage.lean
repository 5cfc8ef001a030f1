import LedgerGateway.Construction.Format

/-! The stages of transaction construction, each of which turns a JSON request into a JSON answer.
Only two of them ask the node. -/

namespace LedgerGateway

inductive ConstructionStage where
  | derive
  | preprocess
  | metadata
  | payloads
  | combine
  | parse
  | hash
  | submit
  deriving DecidableEq

namespace ConstructionStage

def all : List ConstructionStage :=
  [derive, preprocess, metadata, payloads, combine, parse, hash, submit]

def name : ConstructionStage → String
  | derive => "derive"
  | preprocess => "preprocess"
  | metadata => "metadata"
  | payloads => "payloads"
  | combine => "combine"
  | parse => "parse"
  | hash => "hash"
  | submit => "submit"

/-- Whether the stage asks the node. -/
def needsNode : ConstructionStage → Bool
  | metadata | submit => true
  | _ => false

/-- A conversation that ends with an answer or with an error. -/
abbrev Answering := ExceptT ConstructionError Talk Json

/-- What is known without the node, as an answer. -/
def known {α : Type} (write : α → Json) (r : Except ConstructionError α) : Answering :=
  Talk.ofExcept (r.map write)

/-- Reads the request of a stage, and tells how it is answered. -/
def respond (stage : ConstructionStage) (ctx : ConstructionContext) (filler : Json.Filler)
    (request : Json) : Json.Fit Answering := do
  match stage with
  | derive =>
    let key ← Json.Record.read keyFields keyOfRecord request
    return known derivedToJson key.address
  | preprocess =>
    let q ← PreprocessRequest.read filler request
    return known TransferOptions.response (TransferOptions.ofRequest q ctx.currency)
  | metadata =>
    let q ← MetadataRequest.ofJson request
    return do return (MetadataResponse.ofSuggestion (← Suggestion.ofOptions q.options ctx)).toJson
  | payloads =>
    let q ← PayloadsRequest.read filler request
    return known UnsignedTransaction.toJson (UnsignedTransaction.ofRequest q ctx)
  | combine =>
    let q ← CombineRequest.ofJson request
    return known signedToJson (SignedTransaction.combine q)
  | parse =>
    let q ← ParseRequest.ofJson request
    return known ParsedTransaction.toJson (ParsedTransaction.ofRequest q ctx.currency)
  | hash =>
    let transaction ← Json.Record.read signedFields signedOfRecord request
    return known transactionNameToJson (SignedTransaction.hash transaction)
  | submit =>
    let transaction ← Json.Record.read signedFields signedOfRecord request
    return do return transactionNameToJson (← SignedTransaction.submit transaction)

end ConstructionStage

end LedgerGateway
