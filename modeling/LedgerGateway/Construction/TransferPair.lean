import LedgerGateway.Construction.Error
import LedgerGateway.Ledger.Operation

/-! A transfer as two operations: the debit of the sender, and the credit of the recipient that
points back at it. -/

namespace LedgerGateway

structure TransferPair where
  sender : Address
  recipient : Address
  amount : Nat
  deriving DecidableEq

/-- Refuses amounts in any other currency. -/
def Amount.requireCurrency (a : Amount) (currency : Currency) : Except ConstructionError Unit :=
  if a.currency = currency then .ok () else .error (.check (.currency a.currency))

namespace TransferPair

/-- Refuses operations that are no part of a transfer in the given currency. -/
def requireTransfer (currency : Currency) (o : Operation) : Except ConstructionError Unit :=
  if o.type = .nativeTransfer then o.amount.requireCurrency currency
  else .error (.check (.type o.type))

/-- Reads the debit and the credit, in this order. Their indices, statuses and metadata say
nothing. -/
def ofOperations (currency : Currency) : List Operation → Except ConstructionError TransferPair
  | [debit, credit] => do
    requireTransfer currency debit
    requireTransfer currency credit
    if debit.amount.value ≠ -credit.amount.value then throw (.check .unbalanced)
    if credit.amount.value < 0 then throw (.check .negativeCredit)
    let sender ← (Address.ofText debit.account).mapError fun e => .check (.sender e)
    let recipient ← (Address.ofText credit.account).mapError fun e => .check (.recipient e)
    return ⟨sender, recipient, credit.amount.value.toNat⟩
  | operations => .error (.check (.count operations.length))

/-- The two operations of a transfer that has not been executed, so that they have no status. -/
def operations (t : TransferPair) (currency : Currency) : List Operation :=
  [{ index := 0, type := .nativeTransfer, account := t.sender.text,
     amount := ⟨-t.amount, currency⟩ },
   { index := 1, related := [0], type := .nativeTransfer, account := t.recipient.text,
     amount := ⟨t.amount, currency⟩ }]

end TransferPair

end LedgerGateway
