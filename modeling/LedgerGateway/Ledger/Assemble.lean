import LedgerGateway.Action.Receipt
import LedgerGateway.Ledger.Operation
import LedgerGateway.Ledger.Reconcile

/-! Transactions made of postings. -/

namespace LedgerGateway

namespace Posting

/-- The two operations of a posting: the debit under an even index, and the credit under the next
one, which points back at the debit. -/
def operations (p : Posting) (index : Nat) (currency : Currency) : List Operation :=
  [{ index := .ofNat index, type := p.type, status := some .success, account := p.debit.text,
     amount := ⟨-p.debitAmount, currency⟩, metadata := p.metadata },
   { index := .ofNat (index + 1), related := [.ofNat index], type := p.type,
     status := some .success, account := p.credit.text, amount := ⟨p.creditAmount, currency⟩ }]

/-- The operations of postings, numbered from `index` on. -/
def listOperations (currency : Currency) : (index : Nat) → List Posting → List Operation
  | _, [] => []
  | index, p :: rest => p.operations index currency ++ listOperations currency (index + 2) rest

end Posting

namespace Transaction

/-- The transaction of an action: its fees, and what it moved if it succeeded. An action without
operations has no transaction. -/
def ofPostings? (hash : ActionHash) (r : Reconciled) (success : Bool) (currency : Currency) :
    Option Transaction :=
  let postings := r.fees ++ if success then r.principal else []
  if postings.isEmpty then none else some ⟨hash.text, Posting.listOperations currency 0 postings⟩

end Transaction

end LedgerGateway
