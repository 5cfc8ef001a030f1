import LedgerGateway.Ledger.Fee
import LedgerGateway.Ledger.Movement
import LedgerGateway.Ledger.TransferLog

/-! The postings of one action. A log record, where there is one, tells all movements, and the
payload tells them otherwise. The fee is computed unless the record lists one other than zero. -/

namespace LedgerGateway

/-- The postings of an action, fees apart from what it moved. -/
structure Reconciled where
  fees : List Posting := []
  principal : List Posting := []

/-- The posting of a logged transfer. -/
def LogEntry.posting (e : LogEntry) : Posting := .balanced e.type e.sender e.recipient e.amount

namespace Reconciled

/-- The entries that move something and are fees, or are none. -/
def moving (fees : Bool) (entries : List LogEntry) : List LogEntry :=
  entries.filter fun e => e.amount != 0 && (e.type == .gasFee) == fees

def isGrant (core : ActionCore) : Bool :=
  match core.payload with
  | some (.grantReward _) => true
  | _ => false

/-- Without a log record. Grants, which the block producer appends, then pay no fee, and a failed
action moves nothing. -/
def withoutLogs (action : Action) (core : ActionCore) (sender : Address) (receipt : Receipt)
    (height : UInt64) (ctx : LedgerContext) : Except LedgerError Reconciled :=
  if isGrant core then .ok {}
  else do
    let fee ← Fee.ofCore core sender receipt height ctx
    let movement ←
      if receipt.isSuccess then Movement.ofAction action receipt ctx.pools else .ok none
    return ⟨fee.toList, (movement.map fun m => m.posting sender).toList⟩

/-- With the entries of the action's log record. -/
def withLogs (entries : List LogEntry) (core : ActionCore) (sender : Address) (receipt : Receipt)
    (height : UInt64) (ctx : LedgerContext) : Except LedgerError Reconciled := do
  let listed := (moving true entries).map LogEntry.posting
  let principal := (moving false entries).map LogEntry.posting
  if listed.isEmpty then
    let fee ← Fee.ofCore core sender receipt height ctx
    return ⟨fee.toList, principal⟩
  else return ⟨listed, principal⟩

/-- The postings of an action, whose log record may be missing. -/
def ofAction (action : Action) (sender : Address) (receipt : Receipt) (height : UInt64)
    (logs : Option (List LogEntry)) (ctx : LedgerContext) : Except LedgerError Reconciled := do
  let core ← action.requireCore.mapError .codec
  match logs with
  | none => withoutLogs action core sender receipt height ctx
  | some entries => withLogs entries core sender receipt height ctx

end Reconciled

end LedgerGateway
