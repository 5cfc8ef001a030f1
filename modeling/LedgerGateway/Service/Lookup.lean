import LedgerGateway.Ledger.Fetch
import LedgerGateway.Ledger.Format
import LedgerGateway.Service.Gateway

/-! Accounts, blocks and transactions that clients look up. -/

namespace LedgerGateway

open Json (Fit)

/-- An account whose balance is asked for. -/
structure AccountQuery where
  address : String
  subAccount : Option Json

namespace AccountQuery

def accountOfJson : Json → Fit AccountQuery :=
  Json.Record.read ["address", "sub_account"] fun r =>
    mk <$> r.required "address" Json.asText <*> r.optional "sub_account" .ok

def ofJson : Json → Fit AccountQuery :=
  Json.Record.read ["account_identifier"] fun r => r.required "account_identifier" accountOfJson

/-- The account that is meant. Accounts have no parts with balances of their own. -/
def resolve (q : AccountQuery) : Except ApiError Address :=
  if q.subAccount.isSome then .error ⟨.mustSpecifySubAccount, none⟩
  else (Address.ofText q.address).mapError AddressError.api

end AccountQuery

/-- A block that is asked for; without index and hash it is the latest one. -/
structure BlockQuery where
  index : Option UInt64 := none
  hash : Option String := none

namespace BlockQuery

def blockOfJson : Json → Fit BlockQuery :=
  Json.Record.read ["index", "hash"] fun r =>
    mk <$> r.optional "index" Json.asUInt64 <*> r.optional "hash" Json.asText

def ofJson : Json → Fit BlockQuery :=
  Json.Record.read ["block_identifier"] fun r => r.withDefault "block_identifier" {} blockOfJson

/-- Refuses a block that is told by its hash alone. -/
def requireIndex (q : BlockQuery) : Except ApiError Unit :=
  if q.index.isNone && q.hash.isSome then .error ⟨.mustQueryByIndex, none⟩ else .ok ()

/-- The height of the block. -/
def height (q : BlockQuery) : ExceptT ApiError Talk UInt64 :=
  match q.index with
  | some index => pure index
  | none => Talk.query .chainHeight (.ofNode .unableToGetLatestBlock)

end BlockQuery

/-- A transaction that is asked for, with its block. -/
structure TransactionQuery where
  block : BlockIdentifier
  hash : String

def TransactionQuery.ofJson : Json → Fit TransactionQuery :=
  Json.Record.read ["block_identifier", "transaction_identifier"] fun r =>
    mk <$> r.required "block_identifier" BlockIdentifier.ofJson
      <*> r.required "transaction_identifier" hashOfJson

def AccountBalance.toJson (b : AccountBalance) (currency : Currency) : Json :=
  .object [("block_identifier", b.block.toJson),
    ("balances", .array [(⟨b.balance, currency⟩ : Amount).toJson]),
    ("metadata", .object [("nonce", .ofWord b.nonce)])]

namespace Gateway

def accountBalance (g : Gateway) (q : AccountQuery) : Serving := do
  let address ← Talk.ofExcept q.resolve
  Talk.ofExcept g.requireNode
  let balance ← (AccountBalance.fetch address g.config.ledgerContext).adapt BalanceError.api
  return balance.toJson g.config.currency

/-- The height at which a block is fetched. -/
def blockHeight (g : Gateway) (q : BlockQuery) : ExceptT ApiError Talk UInt64 := do
  Talk.ofExcept q.requireIndex
  Talk.ofExcept g.requireNode
  q.height

/-- The fetching of a block counts once its height is known, whether it succeeds or not. -/
def block (g : Gateway) (q : BlockQuery) : Talk Outcome := do
  match ← (g.blockHeight q).run with
  | .error e => return { result := .error e }
  | .ok height =>
    match ← (Block.fetch height g.config.ledgerContext).run with
    | .error e => return { result := .error e.api, fetchedBlock := true }
    | .ok b => return { result := .ok (.object [("block", b.toJson)]), fetchedBlock := true }

def blockTransaction (g : Gateway) (q : TransactionQuery) : Serving := do
  Talk.ofExcept g.requireNode
  let transaction ←
    (Transaction.fetch q.block.index q.hash g.config.ledgerContext).adapt LedgerError.api
  return .object [("transaction", transaction.toJson)]

end Gateway

end LedgerGateway
