import LedgerGateway.Ledger.Assemble

/-! Blocks as the node stores them, and the transactions that they hold. -/

namespace LedgerGateway

/-- A block as the node stores it. -/
structure RawBlock where
  height : UInt64
  hash : String
  parentHash : String
  timestamp : Int64
  actions : List Bytes
  receipts : List Receipt
  deriving DecidableEq

/-- Log entries by the action that they belong to. -/
abbrev LogGroups := List (ActionHash × List LogEntry)

namespace LogGroups

/-- Opens a group for an action that has none. -/
def ensure (g : LogGroups) (hash : ActionHash) : LogGroups :=
  if g.any fun p => p.1 == hash then g else g ++ [(hash, [])]

/-- Adds an entry to the group of its action. -/
def add (g : LogGroups) (e : LogEntry) : LogGroups :=
  (g.ensure e.actionHash).map fun p => if p.1 = e.actionHash then (p.1, p.2 ++ [e]) else p

/-- The entries of an action, none if no record names it. -/
def entries? (g : LogGroups) (hash : ActionHash) : Option (List LogEntry) :=
  (g.find? fun p => p.1 == hash).map Prod.snd

/-- The first action with a group that is not among the given ones. -/
def orphan? (g : LogGroups) (known : List ActionHash) : Option ActionHash :=
  (g.map Prod.fst).find? fun hash => !known.contains hash

/-- The groups of a block's logs: one for each action that a record names. -/
def ofLogs (logs : TransferLogs) : Except CodecError LogGroups := do
  let entries ← logs.entries
  return entries.foldl add (logs.actionHashes.foldl ensure [])

end LogGroups

namespace RawBlock

/-- The actions with their names; the name is the digest of the octets as they stand in the
block. -/
def decodeActions (b : RawBlock) : Except LedgerError (List (ActionHash × Action)) :=
  b.actions.mapM fun octets => do
    let action ← (Action.ofBytes octets).mapError .codec
    return (Hash.digest256 octets, action)

/-- The last receipt of an action. -/
def receipt? (b : RawBlock) (hash : ActionHash) : Option Receipt :=
  b.receipts.reverse.find? fun r => r.actionHash == hash

/-- The transaction of one action of the block, none if nothing moved. -/
def decodeAction (b : RawBlock) (hash : ActionHash) (action : Action)
    (logs : Option (List LogEntry)) (ctx : LedgerContext) :
    Except LedgerError (Option Transaction) := do
  match b.receipt? hash with
  | none => throw (.missingReceipt hash)
  | some receipt =>
    let sender ← action.senderAddress.mapError .codec
    let reconciled ← Reconciled.ofAction action sender receipt b.height logs ctx
    return Transaction.ofPostings? hash reconciled receipt.isSuccess ctx.currency

/-- The transactions of a block. Every log record must belong to an action of the block. -/
def decode (b : RawBlock) (logs : TransferLogs) (ctx : LedgerContext) :
    Except LedgerError (List Transaction) := do
  let actions ← b.decodeActions
  let groups ← (LogGroups.ofLogs logs).mapError .codec
  match groups.orphan? (actions.map Prod.fst) with
  | some orphan => throw (.orphanLog orphan)
  | none =>
    let found ← actions.mapM fun a => b.decodeAction a.1 a.2 (groups.entries? a.1) ctx
    return found.filterMap id

/-- The block before; the first block counts as its own. -/
def parent (b : RawBlock) : BlockIdentifier :=
  if b.height ≤ 1 then ⟨b.height, b.hash⟩ else ⟨b.height - 1, b.parentHash⟩

end RawBlock

end LedgerGateway
