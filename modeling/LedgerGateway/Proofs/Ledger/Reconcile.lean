import LedgerGateway.Ledger.Reconcile
import LedgerGateway.Proofs.Ledger.Fee
import LedgerGateway.Proofs.Ledger.Movement

/-!
# Where postings come from

The postings of an action come from its log record or from its payload, and its fee from the
record or from the price of gas. Whatever the source, what is moved is settled and is no gas fee
(`principal_settled`), and the fees are settled gas fees unless the one fee is a charge made
twice (`fees_cases`).
-/

namespace LedgerGateway

open Outcome

/-- A log record tells the fee when it lists one other than zero. -/
def ListsFee (entries : List LogEntry) : Prop := ∃ e ∈ entries, e.type = .gasFee ∧ e.amount ≠ 0

namespace Reconciled

theorem mem_moving {fees : Bool} {entries : List LogEntry} {e : LogEntry} :
    e ∈ moving fees entries ↔ e ∈ entries ∧ e.amount ≠ 0 ∧ (e.type = .gasFee ↔ fees = true) := by
  simp only [moving, List.mem_filter, Bool.and_eq_true, bne_iff_ne]
  cases fees <;> simp

theorem moving_eq_nil {entries : List LogEntry} :
    moving true entries = [] ↔ ¬ ListsFee entries := by
  simp only [List.eq_nil_iff_forall_not_mem, mem_moving, ListsFee]
  constructor
  · rintro none ⟨e, he, fee, moves⟩
    exact none e ⟨he, moves, by simp [fee]⟩
  · rintro none e ⟨he, moves, fee⟩
    exact none ⟨e, he, fee.mpr trivial, moves⟩

theorem settled_moving {fees : Bool} {entries : List LogEntry} :
    ∀ p ∈ (moving fees entries).map LogEntry.posting, (p.type = .gasFee ↔ fees = true) ∧
      p.Settled := by
  intro p hp
  obtain ⟨e, he, rfl⟩ := List.mem_map.mp hp
  obtain ⟨-, moves, kind⟩ := mem_moving.mp he
  exact ⟨kind, Posting.settled_balanced _ _ _ moves⟩

variable {action : Action} {core : ActionCore} {sender : Address} {receipt : Receipt}
  {height : UInt64} {ctx : LedgerContext} {r : Reconciled}

theorem isGrant_iff : isGrant core = true ↔ ∃ g, core.payload = some (.grantReward g) := by
  unfold isGrant
  split <;> simp_all

theorem isExecution_of_isGrant (grant : isGrant core = true) : Fee.isExecution core = false := by
  obtain ⟨g, hg⟩ := isGrant_iff.mp grant
  rw [Fee.isExecution, hg]

theorem withoutLogs_eq_ok :
    withoutLogs action core sender receipt height ctx = .ok r ↔
      isGrant core = true ∧ {} = r ∨
      isGrant core = false ∧ ∃ fee, Fee.ofCore core sender receipt height ctx = .ok fee ∧
        ∃ moved,
          (if receipt.isSuccess then Movement.ofAction action receipt ctx.pools else .ok none) =
            .ok moved ∧
          ⟨fee.toList, (moved.map fun m => m.posting sender).toList⟩ = r := by
  unfold withoutLogs
  cases isGrant core
  · cases receipt.isSuccess <;>
      simp only [Bool.false_eq_true, if_false, if_true, bind_eq_ok, pure_eq_ok, false_and,
        true_and, false_or]
  · simp only [if_true, Except.ok.injEq, true_and, Bool.true_eq_false, false_and, or_false]

theorem withLogs_eq_ok {entries : List LogEntry} :
    withLogs entries core sender receipt height ctx = .ok r ↔
      ListsFee entries ∧
        ⟨(moving true entries).map LogEntry.posting,
          (moving false entries).map LogEntry.posting⟩ = r ∨
      ¬ ListsFee entries ∧ ∃ fee, Fee.ofCore core sender receipt height ctx = .ok fee ∧
        ⟨fee.toList, (moving false entries).map LogEntry.posting⟩ = r := by
  have listed : ((moving true entries).map LogEntry.posting).isEmpty = true ↔
      ¬ ListsFee entries := by
    rw [List.isEmpty_iff, List.map_eq_nil_iff, moving_eq_nil]
  unfold withLogs
  by_cases lists : ListsFee entries
  · have told : ¬ ((moving true entries).map LogEntry.posting).isEmpty = true :=
      fun h => listed.mp h lists
    simp only [if_neg told, pure_eq_ok, lists, true_and, not_true_eq_false, false_and, or_false]
  · simp only [if_pos (listed.mpr lists), bind_eq_ok, pure_eq_ok, lists, false_and,
      not_false_eq_true, true_and, false_or]

theorem ofAction_eq_ok {logs : Option (List LogEntry)} (hcore : action.core = some core) :
    ofAction action sender receipt height logs ctx = .ok r ↔
      match logs with
      | none => withoutLogs action core sender receipt height ctx = .ok r
      | some entries => withLogs entries core sender receipt height ctx = .ok r := by
  simp only [ofAction, bind_eq_ok, mapError_eq_ok, Action.requireCore_eq_ok, hcore,
    Option.some.injEq, exists_eq_left']
  cases logs <;> rfl

theorem core_of_eq_ok {logs : Option (List LogEntry)}
    (h : ofAction action sender receipt height logs ctx = .ok r) :
    ∃ core, action.core = some core := by
  simp only [ofAction, bind_eq_ok, mapError_eq_ok, Action.requireCore_eq_ok] at h
  obtain ⟨core, hcore, -⟩ := h
  exact ⟨core, hcore⟩

/-- Neither a log record nor a payload moves anything but whole amounts, and no gas fee. -/
theorem principal_settled {logs : Option (List LogEntry)} (hcore : action.core = some core)
    (h : ofAction action sender receipt height logs ctx = .ok r) :
    ∀ p ∈ r.principal, p.type ≠ .gasFee ∧ p.Settled := by
  have logged (entries : List LogEntry) :
      ∀ p ∈ (moving false entries).map LogEntry.posting, p.type ≠ .gasFee ∧ p.Settled := by
    intro p hp
    obtain ⟨kind, settled⟩ := settled_moving p hp
    exact ⟨fun fee => Bool.false_ne_true (kind.mp fee), settled⟩
  rw [ofAction_eq_ok hcore] at h
  cases logs with
  | none =>
    obtain ⟨-, rfl⟩ | ⟨-, fee, -, moved, hmoved, rfl⟩ := withoutLogs_eq_ok.mp h
    · simp
    · intro p hp
      obtain ⟨m, rfl, rfl⟩ : ∃ m, moved = some m ∧ m.posting sender = p := by simpa using hp
      split at hmoved
      · obtain ⟨moves, kind⟩ := Movement.ofAction_moves hcore hmoved
        exact ⟨Movement.type_posting m sender ▸ kind, Movement.settled_posting sender moves⟩
      · cases hmoved
  | some entries =>
    obtain ⟨-, rfl⟩ | ⟨-, fee, -, rfl⟩ := withLogs_eq_ok.mp h
    · exact logged entries
    · exact logged entries

/-- The fee of an action is out of balance when it was computed, is not zero and was charged
twice. -/
def Asymmetric (core : ActionCore) (receipt : Receipt) (height : UInt64)
    (logs : Option (List LogEntry)) (ctx : LedgerContext) : Prop :=
  Fee.isExecution core = true ∧ height < ctx.pacificHeight ∧ ¬ ListsFee (logs.getD []) ∧
    Fee.charge core receipt ≠ 0

/-- The fees of an action are settled unless the fee is asymmetric, and then it is the only one. -/
theorem fees_cases {logs : Option (List LogEntry)} (hcore : action.core = some core)
    (h : ofAction action sender receipt height logs ctx = .ok r) :
    Asymmetric core receipt height logs ctx ∧
        r.fees = [Fee.double sender ctx (Fee.charge core receipt)] ∨
      ¬ Asymmetric core receipt height logs ctx ∧ ∀ p ∈ r.fees, p.type = .gasFee ∧ p.Settled := by
  have computed {fee : Option Posting} (known : Fee.ofCore core sender receipt height ctx = .ok fee)
      (unlisted : ¬ ListsFee (logs.getD [])) :
      Asymmetric core receipt height logs ctx ∧
        fee.toList = [Fee.double sender ctx (Fee.charge core receipt)] ∨
      ¬ Asymmetric core receipt height logs ctx ∧
        ∀ p ∈ fee.toList, p.type = .gasFee ∧ p.Settled := by
    cases fee with
    | none =>
      have free : Fee.charge core receipt = 0 := by
        by_contra moves
        have posting := (Fee.ofCore_eq_ok.mp known).2
        rw [if_neg moves] at posting
        split at posting <;> cases posting
      exact .inr ⟨fun asymmetric => asymmetric.2.2.2 free, by simp⟩
    | some p =>
      obtain ⟨moves, ⟨twice, rfl⟩ | ⟨once, kind, settled⟩⟩ := Fee.ofCore_posting known
      · exact .inl ⟨⟨twice.1, twice.2, unlisted, moves⟩, rfl⟩
      · exact .inr ⟨fun asymmetric => once ⟨asymmetric.1, asymmetric.2.1⟩, by simp [kind, settled]⟩
  rw [ofAction_eq_ok hcore] at h
  cases logs with
  | none =>
    obtain ⟨grant, rfl⟩ | ⟨-, fee, known, moved, -, rfl⟩ := withoutLogs_eq_ok.mp h
    · refine .inr ⟨fun asymmetric => ?_, by simp⟩
      exact Bool.false_ne_true ((isExecution_of_isGrant grant).symm.trans asymmetric.1)
    · exact computed known (by simp [ListsFee])
  | some entries =>
    obtain ⟨lists, rfl⟩ | ⟨unlisted, fee, known, rfl⟩ := withLogs_eq_ok.mp h
    · refine .inr ⟨fun asymmetric => asymmetric.2.2.1 lists, ?_⟩
      intro p hp
      obtain ⟨kind, settled⟩ := settled_moving p hp
      exact ⟨kind.mpr rfl, settled⟩
    · exact computed known unlisted

end Reconciled

end LedgerGateway
