import LedgerGateway.Ledger.Movement
import LedgerGateway.Proofs.Envelope
import LedgerGateway.Proofs.Ledger.Posting

/-!
# What an action moves

A payload that names an amount moves it, unless the amount is zero; its counterparty is looked at
only in the first case (`ofAction_eq_ok`). No payload moves a gas fee.
-/

namespace LedgerGateway.Movement

open Outcome

theorem type_ofPayload? {p : Payload} {type : OperationType} {text : String} {other : Counterparty}
    (h : ofPayload? p = some (type, text, other)) : type ≠ .gasFee := by
  cases p <;> simp only [ofPayload?, Option.some.injEq, Prod.mk.injEq, reduceCtorEq] at h <;>
    (obtain ⟨rfl, -, -⟩ := h; decide)

variable {action : Action} {core : ActionCore} {receipt : Receipt} {pools : Pools}

theorem Counterparty.address_account {text : String} {a : Address} :
    (Counterparty.account text).address receipt pools = .ok a ↔ Address.ofText text = .ok a :=
  mapError_eq_ok.trans readAddress_eq_ok

theorem Counterparty.address_contract {text : String} {a : Address} :
    (Counterparty.contract text).address receipt pools = .ok a ↔
      if text = "" then receipt.contractAddress = some a else Address.ofText text = .ok a := by
  unfold Counterparty.address
  by_cases created : text = ""
  · simp only [if_pos created]
    cases receipt.contractAddress <;> simp
  · simp only [if_neg created, mapError_eq_ok, readAddress_eq_ok]

theorem ofAction_none (hcore : action.core = some core) (h : core.payload.bind ofPayload? = none) :
    ofAction action receipt pools = .ok none := by
  simp only [ofAction, bind_eq_ok, mapError_eq_ok, Action.requireCore_eq_ok, hcore,
    Option.some.injEq, exists_eq_left', h, pure_eq_ok]

theorem ofAction_eq_ok {type : OperationType} {text : String} {other : Counterparty}
    {moved : Option Movement} (hcore : action.core = some core)
    (h : core.payload.bind ofPayload? = some (type, text, other)) :
    ofAction action receipt pools = .ok moved ↔
      ∃ amount, Decimal.nat? text.toList = some amount ∧
        (amount = 0 ∧ none = moved ∨
          amount ≠ 0 ∧ ∃ account, other.address receipt pools = .ok account ∧
            some ⟨type, amount, account, type != .claimFromRewardingFund⟩ = moved) := by
  simp only [ofAction, bind_eq_ok, mapError_eq_ok, Action.requireCore_eq_ok, hcore,
    Option.some.injEq, exists_eq_left', h, readAmount_eq_ok]
  apply exists_congr
  intro amount
  by_cases zero : amount = 0
  · simp only [zero, if_true, pure_eq_ok, true_and, ne_eq, not_true_eq_false, false_and, or_false]
  · simp only [zero, if_false, bind_eq_ok, pure_eq_ok, false_and, ne_eq, not_false_eq_true,
      true_and, false_or]

theorem ofAction_moves {m : Movement} (hcore : action.core = some core)
    (h : ofAction action receipt pools = .ok (some m)) : m.amount ≠ 0 ∧ m.type ≠ .gasFee := by
  cases named : core.payload.bind ofPayload? with
  | none =>
    rw [ofAction_none hcore named] at h
    cases h
  | some what =>
    obtain ⟨type, text, other⟩ := what
    obtain ⟨amount, -, ⟨-, nothing⟩ | ⟨moves, account, -, moved⟩⟩ :=
      (ofAction_eq_ok hcore named).mp h
    · cases nothing
    · obtain rfl := Option.some.inj moved
      obtain ⟨payload, -, hpayload⟩ := Option.bind_eq_some_iff.mp named
      exact ⟨moves, type_ofPayload? hpayload⟩

theorem type_posting (m : Movement) (sender : Address) : (m.posting sender).type = m.type := by
  unfold posting
  split <;> rfl

theorem settled_posting {m : Movement} (sender : Address) (h : m.amount ≠ 0) :
    (m.posting sender).Settled := by
  unfold posting
  split <;> exact Posting.settled_balanced _ _ _ h

end LedgerGateway.Movement
