import LedgerGateway.Ledger.Fee
import LedgerGateway.Proofs.Ledger.Posting

/-!
# The gas fee

Only an unreadable price keeps a fee from being known (`ofCore_eq_ok`). A known fee is settled
unless it was charged twice, and then the one posting of it is out of balance by the whole charge.
-/

namespace LedgerGateway.Fee

/-- The gas that an action burned at the price that its sender offered. -/
def charge (core : ActionCore) (receipt : Receipt) : Nat :=
  (Decimal.nat? core.gasPrice.toList).getD 0 * receipt.gasConsumed.toNat

/-- Below the Pacific height the fee of an execution left its sender twice. -/
def ChargedTwice (core : ActionCore) (height : UInt64) (ctx : LedgerContext) : Prop :=
  isExecution core = true ∧ height < ctx.pacificHeight

instance (core : ActionCore) (height : UInt64) (ctx : LedgerContext) :
    Decidable (ChargedTwice core height ctx) := by
  unfold ChargedTwice
  infer_instance

/-- The posting of a fee that left its sender twice and reached the pool once. -/
def double (sender : Address) (ctx : LedgerContext) (fee : Nat) : Posting :=
  ⟨.gasFee, sender, ctx.pools.rewarding, 2 * fee, fee, some asymmetry⟩

theorem net_double (sender : Address) (ctx : LedgerContext) (fee : Nat) :
    (double sender ctx fee).net = -(fee : Int) := by
  simp only [double, Posting.net]
  omega

theorem ofCore_eq_ok {core : ActionCore} {sender : Address} {receipt : Receipt} {height : UInt64}
    {ctx : LedgerContext} {fee : Option Posting} :
    ofCore core sender receipt height ctx = .ok fee ↔
      (∃ price, Decimal.nat? core.gasPrice.toList = some price) ∧
      (if charge core receipt = 0 then none
        else if ChargedTwice core height ctx then some (double sender ctx (charge core receipt))
        else some (.balanced .gasFee sender ctx.pools.rewarding (charge core receipt))) = fee := by
  unfold ofCore charge
  cases Decimal.nat? core.gasPrice.toList with
  | none => simp
  | some price =>
    simp only [Option.getD_some, Option.some.injEq, exists_eq', true_and]
    by_cases free : price * receipt.gasConsumed.toNat = 0
    · simp only [if_pos free, Except.ok.injEq]
    · by_cases twice : ChargedTwice core height ctx
      · have here : isExecution core = true ∧ height < ctx.pacificHeight := twice
        simp only [if_neg free, if_pos twice, if_pos here, Except.ok.injEq, double]
      · have here : ¬ (isExecution core = true ∧ height < ctx.pacificHeight) := twice
        simp only [if_neg free, if_neg twice, if_neg here, Except.ok.injEq]

/-- A fee that is charged once is one settled posting, or none if it is zero. -/
theorem ofCore_once {core : ActionCore} {sender : Address} {receipt : Receipt} {height : UInt64}
    {ctx : LedgerContext} {fee : Option Posting} (once : ¬ ChargedTwice core height ctx)
    (known : ofCore core sender receipt height ctx = .ok fee) :
    fee.toList = if charge core receipt = 0 then []
      else [.balanced .gasFee sender ctx.pools.rewarding (charge core receipt)] := by
  obtain ⟨-, rfl⟩ := ofCore_eq_ok.mp known
  rw [if_neg once]
  split <;> rfl

theorem ofCore_eq_error {core : ActionCore} {sender : Address} {receipt : Receipt} {height : UInt64}
    {ctx : LedgerContext} {e : LedgerError} :
    ofCore core sender receipt height ctx = .error e ↔
      Decimal.nat? core.gasPrice.toList = none ∧
        e = .invalidGasPrice receipt.actionHash core.gasPrice := by
  unfold ofCore
  cases Decimal.nat? core.gasPrice.toList with
  | none => simp [eq_comm]
  | some price =>
    simp only [reduceCtorEq, false_and, iff_false]
    split
    · nofun
    · split <;> nofun

/-- Of an action, a fee depends on the price and on whether it is an execution. -/
theorem ofCore_congr {a b : ActionCore} (price : a.gasPrice = b.gasPrice)
    (kind : isExecution a = isExecution b) (sender : Address) (receipt : Receipt) (height : UInt64)
    (ctx : LedgerContext) :
    ofCore a sender receipt height ctx = ofCore b sender receipt height ctx := by
  rw [ofCore, ofCore, price, kind]

/-- A fee is a gas fee; it is settled, or it is the one posting of a charge made twice. -/
theorem ofCore_posting {core : ActionCore} {sender : Address} {receipt : Receipt} {height : UInt64}
    {ctx : LedgerContext} {p : Posting} (h : ofCore core sender receipt height ctx = .ok (some p)) :
    charge core receipt ≠ 0 ∧
      (ChargedTwice core height ctx ∧ p = double sender ctx (charge core receipt) ∨
        ¬ ChargedTwice core height ctx ∧ p.type = .gasFee ∧ p.Settled) := by
  obtain ⟨-, posting⟩ := ofCore_eq_ok.mp h
  split at posting
  · cases posting
  · rename_i moves
    refine ⟨moves, ?_⟩
    split at posting
    · rename_i twice
      exact .inl ⟨twice, (Option.some.inj posting).symm⟩
    · rename_i once
      obtain rfl := Option.some.inj posting
      exact .inr ⟨once, rfl, Posting.settled_balanced _ _ _ moves⟩

end LedgerGateway.Fee
