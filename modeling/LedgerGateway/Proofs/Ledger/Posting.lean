import Mathlib.Algebra.Ring.Int.Defs
import LedgerGateway.Ledger.Assemble

/-!
# Postings and their operations

A list of postings becomes a list of operations twice as long. The operations are told by their
place: the debit of a posting stands at an even place and its credit at the next one
(`getElem?_listOperations`), and what the operations sum up to is what the postings are out of
balance (`sum_listOperations`).
-/

namespace LedgerGateway

/-- What the operations of a transaction sum up to. -/
def Transaction.total (t : Transaction) : Int := (t.operations.map fun op => op.amount.value).sum

namespace Posting

/-- How much more reaches the one account than leaves the other. -/
def net (p : Posting) : Int := p.creditAmount - p.debitAmount

/-- A posting that moves an amount, all of it, without a remark. -/
structure Settled (p : Posting) : Prop where
  equal : p.debitAmount = p.creditAmount
  moves : p.creditAmount ≠ 0
  unmarked : p.metadata = none

theorem settled_balanced {amount : Nat} (type : OperationType) (debit credit : Address)
    (h : amount ≠ 0) : (balanced type debit credit amount).Settled :=
  ⟨rfl, h, rfl⟩

theorem Settled.amounts_ne_zero {p : Posting} (h : p.Settled) :
    p.debitAmount ≠ 0 ∧ p.creditAmount ≠ 0 :=
  ⟨h.equal ▸ h.moves, h.moves⟩

theorem Settled.net {p : Posting} (h : p.Settled) : p.net = 0 := by
  rw [Posting.net, h.equal]
  exact Int.sub_self _

def debitLeg (p : Posting) (index : Nat) (currency : Currency) : Operation :=
  { index := .ofNat index, type := p.type, status := some .success, account := p.debit.text,
    amount := ⟨-p.debitAmount, currency⟩, metadata := p.metadata }

def creditLeg (p : Posting) (index : Nat) (currency : Currency) : Operation :=
  { index := .ofNat (index + 1), related := [.ofNat index], type := p.type, status := some .success,
    account := p.credit.text, amount := ⟨p.creditAmount, currency⟩ }

variable {currency : Currency}

theorem listOperations_cons (p : Posting) (ps : List Posting) (index : Nat) :
    listOperations currency index (p :: ps) =
      p.debitLeg index currency ::
        p.creditLeg index currency :: listOperations currency (index + 2) ps :=
  rfl

theorem listOperations_append (ps qs : List Posting) (index : Nat) :
    listOperations currency index (ps ++ qs) =
      listOperations currency index ps ++ listOperations currency (index + 2 * ps.length) qs := by
  induction ps generalizing index with
  | nil => rfl
  | cons p ps ih =>
    have place : index + 2 * (ps.length + 1) = index + 2 + 2 * ps.length := by omega
    rw [List.cons_append, listOperations_cons, ih, listOperations_cons, List.length_cons, place]
    rfl

@[simp] theorem length_listOperations (ps : List Posting) (index : Nat) :
    (listOperations currency index ps).length = 2 * ps.length := by
  induction ps generalizing index with
  | nil => rfl
  | cons p ps ih =>
    rw [listOperations_cons, List.length_cons, List.length_cons, ih, List.length_cons]
    omega

/-- Operation `2 * k` is the debit of posting `k`, and the one after it is the credit. -/
theorem getElem?_listOperations {ps : List Posting} {p : Posting} {k : Nat} (index : Nat)
    (h : ps[k]? = some p) :
    (listOperations currency index ps)[2 * k]? = some (p.debitLeg (index + 2 * k) currency) ∧
      (listOperations currency index ps)[2 * k + 1]? =
        some (p.creditLeg (index + 2 * k) currency) := by
  induction ps generalizing index k with
  | nil => cases h
  | cons q ps ih =>
    rw [listOperations_cons]
    cases k with
    | zero =>
      obtain rfl : q = p := Option.some.inj h
      exact ⟨rfl, rfl⟩
    | succ k =>
      have tail := ih (index + 2) (List.getElem?_cons_succ.symm.trans h)
      rw [show index + 2 + 2 * k = index + 2 * (k + 1) by omega] at tail
      exact tail

/-- What holds of both legs of every posting, wherever it stands, holds of every operation. -/
theorem forall_listOperations {P : Operation → Prop} {ps : List Posting}
    (h : ∀ p ∈ ps, ∀ index, P (p.debitLeg index currency) ∧ P (p.creditLeg index currency))
    (index : Nat) : ∀ op ∈ listOperations currency index ps, P op := by
  induction ps generalizing index with
  | nil => simp [listOperations]
  | cons p ps ih =>
    have here := h p (by simp) index
    have later := ih (fun q hq => h q (by simp [hq])) (index + 2)
    rw [listOperations_cons]
    exact List.forall_mem_cons.mpr ⟨here.1, List.forall_mem_cons.mpr ⟨here.2, later⟩⟩

theorem sum_listOperations (ps : List Posting) (index : Nat) :
    ((listOperations currency index ps).map fun op => op.amount.value).sum = (ps.map net).sum := by
  induction ps generalizing index with
  | nil => rfl
  | cons p ps ih =>
    rw [listOperations_cons, List.map_cons, List.map_cons, List.sum_cons, List.sum_cons, ih,
      List.map_cons, List.sum_cons]
    simp only [debitLeg, creditLeg, net]
    omega

theorem sum_settled {ps : List Posting} (h : ∀ p ∈ ps, p.Settled) : (ps.map net).sum = 0 := by
  induction ps with
  | nil => rfl
  | cons p ps ih =>
    rw [List.map_cons, List.sum_cons, (h p (by simp)).net, ih fun q hq => h q (by simp [hq])]
    rfl

end Posting

end LedgerGateway
