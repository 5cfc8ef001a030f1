import LedgerGateway.Node

/-! Reading blocks, transactions and balances from a node. -/

namespace LedgerGateway

namespace Block

/-- The block at a height, with its transactions. -/
def fetch (height : UInt64) (ctx : LedgerContext) : ExceptT LedgerError Talk Block := do
  let raw ← Talk.query (.rawBlock height) .node
  let logs ← Talk.query (.transferLogs height) .node
  let transactions ← Talk.ofExcept (raw.decode logs ctx)
  return ⟨⟨raw.height, raw.hash⟩, raw.parent, raw.timestamp, transactions⟩

end Block

namespace Transaction

/-- The transaction of one action of a block, named by its text. The node must not log transfers of
other actions under that name. -/
def fetch (height : UInt64) (name : String) (ctx : LedgerContext) :
    ExceptT LedgerError Talk Transaction := do
  let wanted ← Talk.ofExcept ((ActionHash.ofText name).mapError .codec)
  let raw ← Talk.query (.rawBlock height) .node
  let actions ← Talk.ofExcept raw.decodeActions
  match actions.find? fun a => a.1 == wanted with
  | none => throw (.transactionNotFound name)
  | some (hash, action) =>
    let logs ← Talk.query (.transferLogOf hash) .node
    let groups ← Talk.ofExcept ((LogGroups.ofLogs logs).mapError .codec)
    match groups.orphan? [hash] with
    | some orphan => throw (.orphanLog orphan)
    | none =>
      match ← Talk.ofExcept (raw.decodeAction hash action (groups.entries? hash) ctx) with
      | some t => return t
      | none => throw (.transactionNotFound name)

end Transaction

/-- Why a balance cannot be shown. -/
inductive BalanceError where
  | account (address : Address) (error : NodeError)
  | latestBlock (error : NodeError)
  deriving DecidableEq

def BalanceError.message : BalanceError → String
  | .account address error => "unable to read account " ++ address.text ++ ": " ++ error.message
  | .latestBlock error => "unable to read the latest block: " ++ error.message

def BalanceError.api : BalanceError → ApiError
  | .account _ error => .ofNode .unableToGetAccount error
  | .latestBlock error => .ofNode .unableToGetLatestBlock error

/-- A balance and the next nonce, with the block that was the latest after they were read. -/
structure AccountBalance where
  block : BlockIdentifier
  balance : Nat
  nonce : UInt64
  deriving DecidableEq

namespace AccountBalance

/-- The balance and nonce of an account. The rewarding pool is no account of its own: the node tells
what is available in it, and it has no nonce. -/
def state (address : Address) (ctx : LedgerContext) : ExceptT BalanceError Talk AccountState :=
  if address = ctx.pools.rewarding then do
    let balance ← Talk.query .rewardingBalance (.account address)
    return ⟨balance, 0⟩
  else Talk.query (.account address) (.account address)

def fetch (address : Address) (ctx : LedgerContext := {}) :
    ExceptT BalanceError Talk AccountBalance := do
  let state ← AccountBalance.state address ctx
  let height ← Talk.query .chainHeight .latestBlock
  let tip ← Talk.query (.rawBlock height) .latestBlock
  return ⟨⟨tip.height, tip.hash⟩, state.balance, state.pendingNonce⟩

end AccountBalance

end LedgerGateway
