import LedgerGateway.Proofs.Ledger.ActionReading

/-!
# Shape of a transaction

A transaction is a list of pairs of operations: a debit under an even index, and a credit of the
same kind under the next index that points back at it. Zero amounts never get this far, since log
entries, fees and payload amounts of zero make no posting, so that debits are negative and credits
positive. Fees stand before all else.
-/

namespace LedgerGateway

/-- Pair number `k` of a transaction. Indices are 64-bit words, so that they tell the place of an
operation as long as it fits. -/
structure Operation.IsPair (k : Nat) (debit credit : Operation) : Prop where
  debit_index : debit.index = .ofNat (2 * k)
  debit_related : debit.related = []
  debit_negative : debit.amount.value < 0
  credit_index : credit.index = .ofNat (2 * k + 1)
  credit_related : credit.related = [.ofNat (2 * k)]
  credit_positive : 0 < credit.amount.value
  same_type : debit.type = credit.type
  place : 2 * k + 1 < UInt64.size → debit.index.toNat = 2 * k ∧ credit.index.toNat = 2 * k + 1

/-- The form of every transaction that a block is shown as. -/
structure Transaction.WellShaped (currency : Currency) (t : Transaction) : Prop where
  pairs : ∃ n, 0 < n ∧ t.operations.length = 2 * n ∧ ∀ k < n, ∃ debit credit,
    t.operations[2 * k]? = some debit ∧
      t.operations[2 * k + 1]? = some credit ∧ debit.IsPair k credit
  status : ∀ op ∈ t.operations, op.status = some .success
  currency : ∀ op ∈ t.operations, op.amount.currency = currency
  account : ∀ op ∈ t.operations, ∃ a : Address, op.account = a.text
  fees_first : ∃ fees rest, t.operations = fees ++ rest ∧ (∀ op ∈ fees, op.type = .gasFee) ∧
    ∀ op ∈ rest, op.type ≠ .gasFee

namespace Posting

/-- A posting whose amounts are not zero makes a pair. -/
theorem isPair {p : Posting} (hdebit : p.debitAmount ≠ 0) (hcredit : p.creditAmount ≠ 0) (k : Nat)
    (currency : Currency) :
    (p.debitLeg (2 * k) currency).IsPair k (p.creditLeg (2 * k) currency) where
  debit_index := rfl
  debit_related := rfl
  debit_negative := by simp only [debitLeg]; omega
  credit_index := rfl
  credit_related := rfl
  credit_positive := by simp only [creditLeg]; omega
  same_type := rfl
  place := by
    intro fits
    simp only [debitLeg, creditLeg, UInt64.toNat_ofNat_of_lt' fits]
    exact ⟨UInt64.toNat_ofNat_of_lt' (by omega), trivial⟩

theorem type_listOperations {P : OperationType → Prop} {ps : List Posting} {currency : Currency}
    (index : Nat) (h : ∀ p ∈ ps, P p.type) : ∀ op ∈ listOperations currency index ps, P op.type :=
  forall_listOperations (fun p hp _ => ⟨h p hp, h p hp⟩) index

/-- Postings of fees and then of other things, none of which is empty, make a transaction of
the right form. -/
theorem wellShaped {fees rest : List Posting} {currency : Currency} (name : String)
    (some : fees ++ rest ≠ []) (moves : ∀ p ∈ fees ++ rest, p.debitAmount ≠ 0 ∧ p.creditAmount ≠ 0)
    (hfees : ∀ p ∈ fees, p.type = .gasFee) (hrest : ∀ p ∈ rest, p.type ≠ .gasFee) :
    Transaction.WellShaped currency ⟨name, listOperations currency 0 (fees ++ rest)⟩ where
  pairs := by
    refine ⟨(fees ++ rest).length, List.length_pos_iff.mpr some, length_listOperations _ _,
      fun k hk => ?_⟩
    obtain ⟨hdebit, hcredit⟩ := moves _ (List.getElem_mem hk)
    obtain ⟨debit, credit⟩ := getElem?_listOperations 0 (List.getElem?_eq_getElem hk)
    rw [Nat.zero_add] at debit credit
    exact ⟨_, _, debit, credit, isPair hdebit hcredit k currency⟩
  status := forall_listOperations (fun _ _ _ => ⟨rfl, rfl⟩) 0
  currency := forall_listOperations (fun _ _ _ => ⟨rfl, rfl⟩) 0
  account := forall_listOperations (fun p _ _ => ⟨⟨p.debit, rfl⟩, ⟨p.credit, rfl⟩⟩) 0
  fees_first :=
    ⟨_, _, listOperations_append fees rest 0, type_listOperations (P := (· = .gasFee)) _ hfees,
      type_listOperations (P := (· ≠ .gasFee)) _ hrest⟩

end Posting

namespace ActionReading

variable {b : RawBlock} {logs : TransferLogs} {ctx : LedgerContext}

/-- The fees of an action are gas fees, and neither they nor anything else that it shows is zero. -/
theorem fees_move (r : ActionReading b logs ctx) :
    ∀ p ∈ r.reconciled.fees, p.type = .gasFee ∧ p.debitAmount ≠ 0 ∧ p.creditAmount ≠ 0 := by
  intro p hp
  obtain ⟨asymmetric, hfees⟩ | ⟨-, hfees⟩ := Reconciled.fees_cases r.core_eq r.reconciled_eq
  · obtain rfl := List.mem_singleton.mp (hfees ▸ hp)
    have charged := asymmetric.2.2.2
    refine ⟨rfl, ?_, charged⟩
    simp only [Fee.double]
    omega
  · obtain ⟨kind, settled⟩ := hfees p hp
    exact ⟨kind, settled.amounts_ne_zero⟩

end ActionReading

namespace RawBlock

variable {b : RawBlock} {logs : TransferLogs} {ctx : LedgerContext}

/-- Every transaction has the right form, and that of a failed action has nothing but fees. -/
theorem decode_wellShaped {txs : List Transaction} (h : b.decode logs ctx = .ok txs) :
    ∀ t ∈ txs, t.WellShaped ctx.currency ∧
      ∃ r : ActionReading b logs ctx, r.octets ∈ b.actions ∧ r.transaction? = some t ∧
        (r.receipt.status ≠ 1 → ∀ op ∈ t.operations, op.type = .gasFee) := by
  intro t ht
  obtain ⟨r, hr, shown⟩ := decode_mem h ht
  obtain ⟨some, rfl⟩ := ActionReading.transaction?_eq_some shown
  constructor
  · obtain ⟨principal, hpostings, hprincipal⟩ := r.postings_settled
    rw [hpostings] at some ⊢
    apply Posting.wellShaped _ some
    · intro p hp
      rcases List.mem_append.mp hp with hp | hp
      · exact (r.fees_move p hp).2
      · exact (hprincipal p hp).2.amounts_ne_zero
    · exact fun p hp => (r.fees_move p hp).1
    · exact fun p hp => (hprincipal p hp).1
  · refine ⟨r, hr, shown, fun failed => ?_⟩
    have onlyFees : r.postings = r.reconciled.fees := by
      rw [ActionReading.postings, if_neg (mt Receipt.isSuccess_iff.mp failed), List.append_nil]
    rw [onlyFees]
    exact Posting.type_listOperations (P := (· = .gasFee)) 0 fun p hp => (r.fees_move p hp).1

end RawBlock

theorem Specimen.block_wellShaped :
    ∃ txs, block.decode logs {} = .ok txs ∧ txs.map amounts = [[-600, 300, -7, 7], [-4, 4]] ∧
      ∀ t ∈ txs, t.WellShaped Currency.native ∧
        ∃ r : ActionReading block logs {}, r.octets ∈ block.actions ∧ r.transaction? = some t ∧
          (r.receipt.status ≠ 1 → ∀ op ∈ t.operations, op.type = .gasFee) := by
  obtain ⟨txs, decoded, shown⟩ := block_decoded
  exact ⟨txs, decoded, shown, RawBlock.decode_wellShaped decoded⟩

end LedgerGateway
