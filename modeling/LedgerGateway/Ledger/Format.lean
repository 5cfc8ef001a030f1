import LedgerGateway.Catalog
import LedgerGateway.Json.Record
import LedgerGateway.Ledger.Operation

/-! The JSON forms of amounts, operations, transactions, blocks and error bodies. -/

namespace LedgerGateway

open Json (Fit)

namespace Currency

def toJson (c : Currency) : Json :=
  .object [("symbol", .text c.symbol), ("decimals", .integer c.decimals.toNat)]

def ofJson : Json → Fit Currency :=
  Json.Record.read ["symbol", "decimals"] fun r =>
    mk <$> r.required "symbol" Json.asText <*> r.required "decimals" Json.asUInt32

end Currency

namespace Amount

/-- The value is a text, so that it may be of any size. -/
def toJson (a : Amount) : Json :=
  .object [("value", .text (valueText a.value)), ("currency", a.currency.toJson)]

def valueOfJson (j : Json) : Fit Int := do
  (readValue (← Json.asText j)).mapError .amount

def ofJson : Json → Fit Amount :=
  Json.Record.read ["value", "currency"] fun r =>
    mk <$> r.required "value" valueOfJson <*> r.required "currency" Currency.ofJson

end Amount

namespace OperationType

def toJson (t : OperationType) : Json := .text t.name

def read (filler : Json.Filler) : Json → Fit OperationType := Json.asName filler ofName?

def ofJson : Json → Fit OperationType := read .null

end OperationType

namespace OperationStatus

def toJson (s : OperationStatus) : Json := .text s.name

def read (filler : Json.Filler) : Json → Fit OperationStatus := Json.asName filler ofName?

def ofJson : Json → Fit OperationStatus := read .null

end OperationStatus

/-- The number of an operation, as an identifier. -/
def indexToJson (index : UInt64) : Json := .object [("index", .ofWord index)]

def indexOfJson : Json → Fit UInt64 :=
  Json.Record.read ["index"] fun r => r.required "index" Json.asUInt64

/-- The text of an account, as an identifier. -/
def accountToJson (address : String) : Json := .object [("address", .text address)]

def accountOfJson : Json → Fit String :=
  Json.Record.read ["address"] fun r => r.required "address" Json.asText

/-- The text of a hash, as an identifier. -/
def hashToJson (hash : String) : Json := .object [("hash", .text hash)]

def hashOfJson : Json → Fit String :=
  Json.Record.read ["hash"] fun r => r.required "hash" Json.asText

namespace Operation

/-- Empty lists and absent parts are left out. -/
def toJson (o : Operation) : Json :=
  .object (Json.present [
    ("operation_identifier", some (indexToJson o.index)),
    ("related_operations",
      if o.related = [] then none else some (.array (o.related.map indexToJson))),
    ("type", some o.type.toJson),
    ("status", o.status.map OperationStatus.toJson),
    ("account", some (accountToJson o.account)),
    ("amount", some o.amount.toJson),
    ("metadata", o.metadata.map Json.object)])

def fields : List String :=
  ["operation_identifier", "related_operations", "type", "status", "account", "amount", "metadata"]

def read (filler : Json.Filler) : Json → Fit Operation :=
  Json.Record.read fields fun r =>
    mk <$> r.required "operation_identifier" indexOfJson
      <*> r.withDefault "related_operations" [] (Json.asList indexOfJson)
      <*> r.required "type" (OperationType.read filler)
      <*> r.optional "status" (OperationStatus.read filler)
      <*> r.required "account" accountOfJson
      <*> r.required "amount" Amount.ofJson
      <*> r.optional "metadata" Json.asMembers

def ofJson : Json → Fit Operation := read .null

end Operation

namespace Transaction

def toJson (t : Transaction) : Json :=
  .object [("transaction_identifier", hashToJson t.hash),
    ("operations", .array (t.operations.map Operation.toJson))]

def ofJson : Json → Fit Transaction :=
  Json.Record.read ["transaction_identifier", "operations"] fun r =>
    mk <$> r.required "transaction_identifier" hashOfJson
      <*> r.required "operations" (Json.asList Operation.ofJson)

end Transaction

namespace BlockIdentifier

def toJson (b : BlockIdentifier) : Json :=
  .object [("index", .ofWord b.index), ("hash", .text b.hash)]

def ofJson : Json → Fit BlockIdentifier :=
  Json.Record.read ["index", "hash"] fun r =>
    mk <$> r.required "index" Json.asUInt64 <*> r.required "hash" Json.asText

end BlockIdentifier

namespace Block

def toJson (b : Block) : Json :=
  .object [("block_identifier", b.identifier.toJson), ("parent_block_identifier", b.parent.toJson),
    ("timestamp", .integer b.timestamp.toInt),
    ("transactions", .array (b.transactions.map Transaction.toJson))]

def ofJson : Json → Fit Block :=
  Json.Record.read
    ["block_identifier", "parent_block_identifier", "timestamp", "transactions"] fun r =>
    mk <$> r.required "block_identifier" BlockIdentifier.ofJson
      <*> r.required "parent_block_identifier" BlockIdentifier.ofJson
      <*> r.required "timestamp" Json.asInt64
      <*> r.required "transactions" (Json.asList Transaction.ofJson)

end Block

namespace ErrorBody

def toJson (e : ErrorBody) : Json :=
  .object (Json.present [
    ("code", some (.integer e.code.toInt)),
    ("message", some (.text e.message)),
    ("retriable", some (.bool e.retriable)),
    ("details", e.details.map Json.object)])

def ofJson : Json → Fit ErrorBody :=
  Json.Record.read ["code", "message", "retriable", "details"] fun r =>
    mk <$> r.required "code" Json.asInt32 <*> r.required "message" Json.asText
      <*> r.required "retriable" Json.asBool <*> r.optional "details" Json.asMembers

end ErrorBody

end LedgerGateway
