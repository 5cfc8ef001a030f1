import LedgerGateway.Construction.Reading
import LedgerGateway.Construction.Signing
import LedgerGateway.Construction.Suggestion
import LedgerGateway.Ledger.Format

/-! The JSON forms of the requests and answers of transaction construction. -/

namespace LedgerGateway

open Json (Fit)

namespace KeyText

def toJson (k : KeyText) : Json :=
  .object [("hex_bytes", .text k.hexBytes), ("curve_type", .text k.curveType)]

def ofJson : Json → Fit KeyText :=
  Json.Record.read ["hex_bytes", "curve_type"] fun r =>
    mk <$> r.required "hex_bytes" Json.asText <*> r.required "curve_type" Json.asText

end KeyText

namespace SigningPayload

def toJson (p : SigningPayload) : Json :=
  .object [("account_identifier", accountToJson p.account), ("hex_bytes", .text p.hexBytes),
    ("signature_type", .text p.signatureType)]

def ofJson : Json → Fit SigningPayload :=
  Json.Record.read ["account_identifier", "hex_bytes", "signature_type"] fun r =>
    mk <$> r.required "account_identifier" accountOfJson <*> r.required "hex_bytes" Json.asText
      <*> r.required "signature_type" Json.asText

end SigningPayload

namespace SignatureText

def toJson (s : SignatureText) : Json :=
  .object [("signing_payload", s.payload.toJson), ("public_key", s.key.toJson),
    ("signature_type", .text s.signatureType), ("hex_bytes", .text s.hexBytes)]

def ofJson : Json → Fit SignatureText :=
  Json.Record.read ["signing_payload", "public_key", "signature_type", "hex_bytes"] fun r =>
    mk <$> r.required "signing_payload" SigningPayload.ofJson
      <*> r.required "public_key" KeyText.ofJson
      <*> r.required "signature_type" Json.asText <*> r.required "hex_bytes" Json.asText

end SignatureText

namespace ActionParameters

def toJson (p : ActionParameters) : Json :=
  .object [("nonce", .ofWord p.nonce), ("gasLimit", .ofWord p.gasLimit),
    ("gasPrice", .ofWord p.gasPrice)]

def ofJson : Json → Fit ActionParameters :=
  Json.Record.read ["nonce", "gasLimit", "gasPrice"] fun r =>
    mk <$> r.required "nonce" Json.asUInt64 <*> r.required "gasLimit" Json.asUInt64
      <*> r.required "gasPrice" Json.asUInt64

end ActionParameters

namespace TransferOptions

/-- What is not fixed is left out. -/
def toJson (o : TransferOptions) : Json :=
  .object (Json.present [
    ("sender", some (.text o.sender.text)),
    ("recipient", some (.text o.recipient.text)),
    ("amount", some o.amount.toJson),
    ("gasLimit", o.gasLimit.map Json.ofWord),
    ("gasPrice", o.gasPrice.map Json.ofWord),
    ("nonce", o.nonce.map Json.ofWord),
    ("max_fee", o.maxFee.map Amount.toJson),
    ("suggested_fee_multiplier", o.feeMultiplier.map Json.ofBinary)])

def fields : List String :=
  ["sender", "recipient", "amount", "gasLimit", "gasPrice", "nonce", "max_fee",
    "suggested_fee_multiplier"]

def ofJson : Json → Fit TransferOptions :=
  Json.Record.read fields fun r =>
    mk <$> r.required "sender" Json.asAddress
      <*> r.required "recipient" Json.asAddress
      <*> r.required "amount" Amount.ofJson
      <*> r.optional "gasLimit" Json.asUInt64
      <*> r.optional "gasPrice" Json.asUInt64
      <*> r.optional "nonce" Json.asUInt64
      <*> r.optional "max_fee" Amount.ofJson
      <*> r.optional "suggested_fee_multiplier" Json.asBinary

/-- The options as a response, with the accounts that must sign. -/
def response (o : TransferOptions) : Json :=
  .object [("options", o.toJson),
    ("required_public_keys", .array (o.signers.map fun a => accountToJson a.text))]

end TransferOptions

namespace PreprocessRequest

/-- Nothing is left out. -/
def toJson (q : PreprocessRequest) : Json :=
  .object [
    ("operations", .array (q.operations.map Operation.toJson)),
    ("metadata", (q.metadata.map Json.object).getD .null),
    ("max_fee", .array (q.maxFee.map Amount.toJson)),
    ("suggested_fee_multiplier", (q.feeMultiplier.map Json.ofBinary).getD .null)]

def fields : List String := ["operations", "metadata", "max_fee", "suggested_fee_multiplier"]

def ofRecord (filler : Json.Filler) (r : Json.Record) : Json.Reading PreprocessRequest :=
  mk <$> r.required "operations" (Json.asList (Operation.read filler))
    <*> r.optional "metadata" Json.asMembers
    <*> r.withDefault "max_fee" [] (Json.asList Amount.ofJson)
    <*> r.optional "suggested_fee_multiplier" Json.asBinary

def read (filler : Json.Filler) : Json → Fit PreprocessRequest :=
  Json.Record.read fields (ofRecord filler)

def ofJson : Json → Fit PreprocessRequest := read .null

end PreprocessRequest

/-- Options that are to be completed. The keys of the request are not needed for it. -/
structure MetadataRequest where
  options : TransferOptions
  keys : List KeyText := []

namespace MetadataRequest

def toJson (q : MetadataRequest) : Json :=
  .object [("options", q.options.toJson), ("public_keys", .array (q.keys.map KeyText.toJson))]

def fields : List String := ["options", "public_keys"]

def ofRecord (r : Json.Record) : Json.Reading MetadataRequest :=
  mk <$> r.required "options" TransferOptions.ofJson
    <*> r.withDefault "public_keys" [] (Json.asList KeyText.ofJson)

def ofJson : Json → Fit MetadataRequest := Json.Record.read fields ofRecord

end MetadataRequest

/-- Parameters with the fees that are suggested for them. -/
structure MetadataResponse where
  parameters : ActionParameters
  fees : List Amount

namespace MetadataResponse

def ofSuggestion (s : Suggestion) : MetadataResponse := ⟨s.parameters, [s.fee]⟩

def toJson (p : MetadataResponse) : Json :=
  .object [("metadata", p.parameters.toJson), ("suggested_fee", .array (p.fees.map Amount.toJson))]

def ofJson : Json → Fit MetadataResponse :=
  Json.Record.read ["metadata", "suggested_fee"] fun r =>
    mk <$> r.required "metadata" ActionParameters.ofJson
      <*> r.required "suggested_fee" (Json.asList Amount.ofJson)

end MetadataResponse

namespace PayloadsRequest

def toJson (q : PayloadsRequest) : Json :=
  .object [("operations", .array (q.operations.map Operation.toJson)),
    ("metadata", q.parameters.toJson),
    ("public_keys", .array (q.keys.map KeyText.toJson))]

def fields : List String := ["operations", "metadata", "public_keys"]

def ofRecord (filler : Json.Filler) (r : Json.Record) : Json.Reading PayloadsRequest :=
  mk <$> r.required "operations" (Json.asList (Operation.read filler))
    <*> r.required "metadata" ActionParameters.ofJson
    <*> r.withDefault "public_keys" [] (Json.asList KeyText.ofJson)

def read (filler : Json.Filler) : Json → Fit PayloadsRequest :=
  Json.Record.read fields (ofRecord filler)

def ofJson : Json → Fit PayloadsRequest := read .null

end PayloadsRequest

def UnsignedTransaction.toJson (u : UnsignedTransaction) : Json :=
  .object [("unsigned_transaction", .text u.transaction),
    ("payloads", .array (u.payloads.map SigningPayload.toJson))]

namespace CombineRequest

def toJson (q : CombineRequest) : Json :=
  .object [("unsigned_transaction", .text q.transaction),
    ("signatures", .array (q.signatures.map SignatureText.toJson))]

def fields : List String := ["unsigned_transaction", "signatures"]

def ofRecord (r : Json.Record) : Json.Reading CombineRequest :=
  mk <$> r.required "unsigned_transaction" Json.asText
    <*> r.required "signatures" (Json.asList SignatureText.ofJson)

def ofJson : Json → Fit CombineRequest := Json.Record.read fields ofRecord

end CombineRequest

namespace ParseRequest

def toJson (q : ParseRequest) : Json :=
  .object [("signed", .bool q.signed), ("transaction", .text q.transaction)]

def fields : List String := ["signed", "transaction"]

def ofRecord (r : Json.Record) : Json.Reading ParseRequest :=
  mk <$> r.required "signed" Json.asBool <*> r.required "transaction" Json.asText

def ofJson : Json → Fit ParseRequest := Json.Record.read fields ofRecord

end ParseRequest

namespace ParsedTransaction

/-- Without signers the list is left out. -/
def toJson (p : ParsedTransaction) : Json :=
  .object (Json.present [
    ("operations", some (.array (p.operations.map Operation.toJson))),
    ("account_identifier_signers",
      if p.signers = [] then none else some (.array (p.signers.map accountToJson))),
    ("metadata", some p.parameters.toJson)])

def ofJson : Json → Fit ParsedTransaction :=
  Json.Record.read ["operations", "account_identifier_signers", "metadata"] fun r =>
    mk <$> r.required "operations" (Json.asList Operation.ofJson)
      <*> r.withDefault "account_identifier_signers" [] (Json.asList accountOfJson)
      <*> r.required "metadata" ActionParameters.ofJson

end ParsedTransaction

/-- The fields of requests with one member. -/
def keyFields : List String := ["public_key"]

def keyOfRecord (r : Json.Record) : Json.Reading KeyText := r.required "public_key" KeyText.ofJson

def signedFields : List String := ["signed_transaction"]

def signedOfRecord (r : Json.Record) : Json.Reading String :=
  r.required "signed_transaction" Json.asText

def signedToJson (transaction : String) : Json :=
  .object [("signed_transaction", .text transaction)]

/-- A name of a transaction as a response. -/
def transactionNameToJson (name : String) : Json :=
  .object [("transaction_identifier", hashToJson name)]

/-- An account as a response. -/
def derivedToJson (a : Address) : Json := .object [("account_identifier", accountToJson a.text)]

end LedgerGateway
