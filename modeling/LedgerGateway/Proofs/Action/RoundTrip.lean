import LedgerGateway.Proofs.Action.Envelope
import LedgerGateway.Proofs.Address.Text

/-!
# The text of an action determines the action

Whatever a text of base-16 digits was written for, an action, an unsigned action or the core inside
one, is read back from it without loss. So no two cores are signed as the same octets, and no two
actions share their octets, whatever payload they carry: a part that is left out of the octets is
told apart from a part that is present and empty.
-/

namespace LedgerGateway

open Outcome
open Wire (Message Field)

/-- One mark may stand before the digits. -/
theorem decodeHexAs_mark {α : Type} (format : Message α) (b : Bytes) :
    decodeHexAs format ("0x" ++ Hex.encode b) = decodeHexAs format (Hex.encode b) := by
  rw [decodeHexAs, Hex.withoutMark_mark, decodeHexAs, Hex.withoutMark_encode]

/-- The octets of a core are what its sender signs, and they are the octets of no other core. -/
theorem ActionCore.encode_injective {c d : ActionCore} (sized : c.encode.length < UInt64.size)
    (same : c.encode = d.encode) : c = d := by
  have first := ActionCore.decode_encode sized
  have second := ActionCore.decode_encode (same ▸ sized)
  rw [same] at first
  exact Except.ok.inj (first.symm.trans second)

namespace Action

variable {a b : Action}

theorem length_key_le (a : Action) : a.senderKey.length ≤ a.encode.length :=
  Nat.le_trans Field.length_octets_le
    (Message.length_write_le (m := format) (List.mem_cons_of_mem _ List.mem_cons_self))

theorem length_signature_le (a : Action) : a.signature.length ≤ a.encode.length :=
  Nat.le_trans Field.length_octets_le
    (Message.length_write_le (m := format)
      (List.mem_cons_of_mem _ (List.mem_cons_of_mem _ List.mem_cons_self)))

/-- An action that has a length is read back from its octets: each of its parts has a length
then. -/
theorem ofBytes_encode_of_sized (sized : a.encode.length < UInt64.size) :
    ofBytes a.encode = .ok a := by
  apply ofBytes_encode
  · intro c carried
    exact Nat.lt_of_le_of_lt (length_core_le carried) sized
  · exact Nat.lt_of_le_of_lt (length_key_le a) sized
  · exact Nat.lt_of_le_of_lt (length_signature_le a) sized

theorem ofHex_toHex (sized : a.encode.length < UInt64.size) : ofHex a.toHex = .ok a := by
  rw [ofHex_toHex_eq]
  exact ofBytes_encode_of_sized sized

theorem encode_injective (sized : a.encode.length < UInt64.size) (same : a.encode = b.encode) :
    a = b := by
  have first := ofBytes_encode_of_sized sized
  have second := ofBytes_encode_of_sized (same ▸ sized)
  rw [same] at first
  exact Except.ok.inj (first.symm.trans second)

end Action

namespace UnsignedAction

theorem length_sender_le (u : UnsignedAction) : (Bytes.ofText u.sender).length ≤ u.encode.length :=
  Nat.le_trans Field.length_text_le
    (Message.length_write_le (m := format) (List.mem_cons_of_mem _ List.mem_cons_self))

theorem ofHex_toHex_of_sized {u : UnsignedAction} (sized : u.encode.length < UInt64.size) :
    ofHex u.toHex = .ok u :=
  ofHex_toHex (Nat.lt_of_le_of_lt (length_core_le u) sized)
    (Nat.lt_of_le_of_lt (length_sender_le u) sized)

end UnsignedAction

/-- Decoding undoes encoding for actions, for unsigned actions, and for the core and the sender that
an unsigned action was made of; one mark before the digits changes nothing. Hence the octets that
are signed tell the core, and the octets of an action tell the action. -/
theorem Action.decoding_undoes_encoding :
    (∀ a : Action, a.encode.length < UInt64.size →
      Action.ofHex a.toHex = .ok a ∧ Action.ofHex ("0x" ++ a.toHex) = .ok a) ∧
    (∀ u : UnsignedAction, u.encode.length < UInt64.size →
      UnsignedAction.ofHex u.toHex = .ok u ∧ UnsignedAction.ofHex ("0x" ++ u.toHex) = .ok u) ∧
    (∀ (core : ActionCore) (sender : Address), core.encode.length < UInt64.size →
      ∃ u, UnsignedAction.ofHex (UnsignedAction.ofCore core sender).toHex = .ok u ∧
        u.decodeCore = .ok core ∧ u.senderAddress = .ok sender) ∧
    (∀ c d : ActionCore, c.encode.length < UInt64.size → c ≠ d → c.encode ≠ d.encode) ∧
    (∀ a b : Action, a.encode.length < UInt64.size → a ≠ b → a.encode ≠ b.encode) := by
  refine ⟨?_, ?_, ?_, ?_, ?_⟩
  · intro a sized
    have plain := Action.ofHex_toHex sized
    exact ⟨plain, (decodeHexAs_mark Action.format a.encode).trans plain⟩
  · intro u sized
    have plain := UnsignedAction.ofHex_toHex_of_sized sized
    exact ⟨plain, (decodeHexAs_mark UnsignedAction.format u.encode).trans plain⟩
  · intro core sender sized
    have whole :=
      UnsignedAction.ofHex_toHex (u := .ofCore core sender) sized (Address.length_text sender)
    have named : (UnsignedAction.ofCore core sender).senderAddress = .ok sender :=
      readAddress_eq_ok.mpr (Address.ofText_text sender)
    exact ⟨_, whole, ActionCore.decode_encode sized, named⟩
  · intro c d sized different same
    exact different (ActionCore.encode_injective sized same)
  · intro a b sized different same
    exact different (Action.encode_injective sized same)

/-! A registration whose candidate is present though nothing is known of it, and a reward of a
negative type. -/

namespace Specimen

def registrationCore : ActionCore where
  version := 1
  gasPrice := "1"
  payload :=
    some (.candidateRegister { candidate := some {}, stakedAmount := "100", autoStake := true })

def registration : Action := ⟨some registrationCore, [4], []⟩

def anonymous : Action :=
  ⟨some { registrationCore with
      payload := some (.candidateRegister { stakedAmount := "100", autoStake := true }) }, [4], []⟩

def reward : Action :=
  ⟨some { payload := some (.grantReward { rewardType := -1, height := 18446744073709551615 }) },
    [], []⟩

def registrar : Address := ⟨List.replicate 20 7, rfl⟩

theorem registration_read_back :
    Action.ofHex registration.toHex = .ok registration ∧
    Action.ofHex ("0x" ++ reward.toHex) = .ok reward ∧
    UnsignedAction.ofHex ("0x" ++ (UnsignedAction.ofCore registrationCore registrar).toHex) =
      .ok (.ofCore registrationCore registrar) ∧
    (∃ u, UnsignedAction.ofHex (UnsignedAction.ofCore registrationCore registrar).toHex = .ok u ∧
      u.decodeCore = .ok registrationCore ∧ u.senderAddress = .ok registrar) ∧
    registrationCore.encode ≠ ActionCore.encode {} ∧ registration.encode ≠ anonymous.encode := by
  obtain ⟨action, unsigned, inside, preimage, envelope⟩ := Action.decoding_undoes_encoding
  have core : registrationCore.encode.length < UInt64.size := by decide +kernel
  refine ⟨(action registration (by decide +kernel)).1, (action reward (by decide +kernel)).2, ?_,
    inside registrationCore registrar core, preimage registrationCore {} core (by decide),
    envelope registration anonymous (by decide +kernel) (by decide)⟩
  exact (unsigned (.ofCore registrationCore registrar) (by decide +kernel)).2

end Specimen

end LedgerGateway
