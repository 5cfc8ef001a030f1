import LedgerGateway.Action.Envelope
import LedgerGateway.Action.Receipt
import LedgerGateway.Proofs.Outcome

/-!
# Parts of an action

When the readers of addresses, amounts and of the parts of an action succeed, and with what.
-/

namespace LedgerGateway

open Outcome

/-- One or more digits and nothing else. -/
def Digits (s : String) : Prop := s ≠ "" ∧ ∀ c ∈ s.toList, c.isDigit = true

theorem nat?_eq_some {s : String} {n : Nat} :
    Decimal.nat? s.toList = some n ↔ Digits s ∧ Decimal.value s.toList = n := by
  simp [Decimal.nat?, Digits]

theorem exists_nat?_iff {s : String} : (∃ n, Decimal.nat? s.toList = some n) ↔ Digits s := by
  simp only [nat?_eq_some, exists_and_left, exists_eq', and_true]

theorem readAmount_eq_ok {s : String} {n : Nat} :
    readAmount s = .ok n ↔ Decimal.nat? s.toList = some n := by
  unfold readAmount
  cases Decimal.nat? s.toList <;> simp

theorem readAddress_eq_ok {s : String} {a : Address} :
    readAddress s = .ok a ↔ Address.ofText s = .ok a :=
  mapError_eq_ok

theorem Receipt.isSuccess_iff {r : Receipt} : r.isSuccess = true ↔ r.status = 1 := beq_iff_eq

theorem ActionCore.requirePayload_eq_ok {core : ActionCore} {payload : Payload} :
    core.requirePayload = .ok payload ↔ core.payload = some payload := by
  unfold requirePayload
  cases core.payload <;> simp

namespace Action

theorem requireCore_eq_ok {a : Action} {core : ActionCore} :
    a.requireCore = .ok core ↔ a.core = some core := by
  unfold requireCore
  cases a.core <;> simp

theorem senderAddress_eq_ok {a : Action} {sender : Address} :
    a.senderAddress = .ok sender ↔
      ∃ key, PublicKey.ofBytes a.senderKey = .ok key ∧ Address.ofKey key = sender := by
  simp only [senderAddress, senderPublicKey, bind_eq_ok, mapError_eq_ok, pure_eq_ok]

/-- A signature is checked against the key that stands beside it, over the core that was signed. -/
theorem verifySignature_eq_ok {a : Action} {key : PublicKey} :
    a.verifySignature = .ok key ↔ PublicKey.ofBytes a.senderKey = .ok key ∧
      ∃ core sig, a.core = some core ∧ Signature.ofRecoverable a.signature = .ok sig ∧
        sig.verify core.signingDigest key = true := by
  simp only [verifySignature, senderPublicKey, bind_eq_ok, mapError_eq_ok, requireCore_eq_ok]
  constructor
  · rintro ⟨signer, hsigner, core, hcore, sig, hsig, h⟩
    split at h
    · rename_i good
      cases h
      exact ⟨hsigner, core, sig, hcore, hsig, good⟩
    · exact absurd h throw_ne_ok
  · rintro ⟨hkey, core, sig, hcore, hsig, good⟩
    refine ⟨key, hkey, core, hcore, sig, hsig, ?_⟩
    rw [if_pos good]
    rfl

end Action

end LedgerGateway
