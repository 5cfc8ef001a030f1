import LedgerGateway.Proofs.Ledger.ActionReading

/-!
# Balance of the ledger

The operations of a decoded transaction sum to zero. The one exception is the fee of an execution
below the Pacific height, which the chain took twice and credited once; its debit carries a mark,
and nothing else does.
-/

namespace LedgerGateway

namespace ActionReading

variable {b : RawBlock} {logs : TransferLogs} {ctx : LedgerContext}

/-- The fee of the action was computed, is not zero and was charged twice. -/
def Asymmetric (r : ActionReading b logs ctx) : Prop :=
  Reconciled.Asymmetric r.core r.receipt b.height r.entries ctx

/-- The gas that the action burned at the price that it names. -/
def charge (r : ActionReading b logs ctx) : Nat := Fee.charge r.core r.receipt

/-- The postings of an action start with its one asymmetric fee, or all of them are settled. -/
theorem postings_cases (r : ActionReading b logs ctx) :
    r.Asymmetric ∧
    (∃ principal, r.postings = Fee.double (Address.ofKey r.key) ctx r.charge :: principal ∧
      ∀ p ∈ principal, p.Settled) ∨
    ¬ r.Asymmetric ∧ ∀ p ∈ r.postings, p.Settled := by
  obtain ⟨principal, hpostings, settled⟩ := r.postings_settled
  rw [hpostings]
  obtain ⟨asymmetric, hfees⟩ | ⟨symmetric, hfees⟩ := Reconciled.fees_cases r.core_eq r.reconciled_eq
  · rw [hfees]
    exact .inl ⟨asymmetric, principal, rfl, fun p hp => (settled p hp).2⟩
  · refine .inr ⟨symmetric, fun p hp => ?_⟩
    rcases List.mem_append.mp hp with hp | hp
    · exact (hfees p hp).2
    · exact (settled p hp).2

end ActionReading

namespace Posting

theorem metadata_settled {ps : List Posting} {currency : Currency} (index : Nat)
    (h : ∀ p ∈ ps, p.Settled) : ∀ op ∈ listOperations currency index ps, op.metadata = none :=
  forall_listOperations (fun p hp _ => ⟨(h p hp).unmarked, rfl⟩) index

end Posting

namespace RawBlock

variable {b : RawBlock} {logs : TransferLogs} {ctx : LedgerContext}

/-- A transaction sums to zero and carries no mark, unless its fee was charged twice: then it lacks
the charge once, and the debit of the fee, which comes first, carries the only mark. -/
theorem decode_balanced {txs : List Transaction} (h : b.decode logs ctx = .ok txs) :
    ∀ t ∈ txs, ∃ r : ActionReading b logs ctx, r.octets ∈ b.actions ∧ r.transaction? = some t ∧
      (r.Asymmetric → t.total = -(r.charge : Int) ∧
        ∃ debit rest, t.operations = debit :: rest ∧ debit.index = 0 ∧ debit.type = .gasFee ∧
          debit.amount.value = -(2 * r.charge : Int) ∧
          debit.metadata = some [("fee_asymmetry", .bool true)] ∧
          ∀ op ∈ rest, op.metadata = none) ∧
      (¬ r.Asymmetric → t.total = 0 ∧ ∀ op ∈ t.operations, op.metadata = none) := by
  intro t ht
  obtain ⟨r, hr, shown⟩ := decode_mem h ht
  obtain ⟨-, rfl⟩ := ActionReading.transaction?_eq_some shown
  refine ⟨r, hr, shown, ?_⟩
  rw [Transaction.total, Posting.sum_listOperations]
  obtain ⟨asymmetric, principal, hpostings, settled⟩ | ⟨symmetric, settled⟩ := r.postings_cases
  · refine ⟨fun _ => ⟨?_, ?_⟩, fun symmetric => absurd asymmetric symmetric⟩
    · rw [hpostings, List.map_cons, List.sum_cons, Fee.net_double, Posting.sum_settled settled]
      exact Int.add_zero _
    · refine ⟨_, _, by rw [hpostings, Posting.listOperations_cons], rfl, rfl, ?_, rfl, ?_⟩
      · simp [Posting.debitLeg, Fee.double]
      · exact List.forall_mem_cons.mpr ⟨rfl, Posting.metadata_settled _ settled⟩
  · refine ⟨fun asymmetric => absurd asymmetric symmetric, fun _ => ⟨?_, ?_⟩⟩
    · exact Posting.sum_settled settled
    · exact Posting.metadata_settled _ settled

end RawBlock

/-- The first transaction of the specimen lacks the fee of 300 once and the second one balances. -/
theorem Specimen.block_balanced :
    ∃ txs, block.decode logs {} = .ok txs ∧ txs.map amounts = [[-600, 300, -7, 7], [-4, 4]] ∧
      ∀ t ∈ txs, ∃ r : ActionReading block logs {}, r.octets ∈ block.actions ∧
        r.transaction? = some t ∧
        (r.Asymmetric → t.total = -(r.charge : Int) ∧
          ∃ debit rest, t.operations = debit :: rest ∧ debit.index = 0 ∧ debit.type = .gasFee ∧
            debit.amount.value = -(2 * r.charge : Int) ∧
            debit.metadata = some [("fee_asymmetry", .bool true)] ∧
            ∀ op ∈ rest, op.metadata = none) ∧
        (¬ r.Asymmetric → t.total = 0 ∧ ∀ op ∈ t.operations, op.metadata = none) := by
  obtain ⟨txs, decoded, shown⟩ := block_decoded
  exact ⟨txs, decoded, shown, RawBlock.decode_balanced decoded⟩

end LedgerGateway
