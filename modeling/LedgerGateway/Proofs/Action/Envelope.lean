import LedgerGateway.Action.Envelope
import LedgerGateway.Proofs.Action.Format
import LedgerGateway.Proofs.Bytes.Hex
import LedgerGateway.Proofs.Envelope

/-!
# Actions are read back from their text

A length takes at most 64 bits, so octets that a length cannot count are not read back. No text of
such octets fits into an address space, which leaves the length of the text as the one condition
(`ofHex_toHex`).
-/

namespace LedgerGateway

open Outcome
open Wire (Message Field)

theorem decodeHexAs_encode {α : Type} (format : Message α) (b : Bytes) :
    decodeHexAs format (Hex.encode b) = decodeAs format b := by
  rw [decodeHexAs, Hex.withoutMark_encode, Hex.decode_encode]

theorem decodeAs_eq_ok {α : Type} {format : Message α} {b : Bytes} {a : α} :
    decodeAs format b = .ok a ↔ format.decode b = .ok a :=
  mapError_eq_ok

theorem ActionCore.decode_encode {c : ActionCore} (sized : c.encode.length < UInt64.size) :
    decodeAs format c.encode = .ok c :=
  decodeAs_eq_ok.mpr (faithful.decode_encode (by decide) sized)

namespace Action

variable {a : Action}

theorem ofBytes_encode (core : ∀ c, a.core = some c → c.encode.length < UInt64.size)
    (key : a.senderKey.length < UInt64.size) (signature : a.signature.length < UInt64.size) :
    ofBytes a.encode = .ok a :=
  decodeAs_eq_ok.mpr (decode_encode core key signature)

theorem ofHex_toHex_eq (a : Action) : ofHex a.toHex = ofBytes a.encode :=
  decodeHexAs_encode format a.encode

/-- The core is a part of the action. -/
theorem length_core_le {c : ActionCore} (h : a.core = some c) :
    c.encode.length ≤ a.encode.length := by
  have part := Message.length_write_le (a := a) (m := format) List.mem_cons_self
  simp only [Field.nested, h, Message.writeNested, List.length_append] at part
  have inside := Wire.length_le_writeDelimited (ActionCore.format.encode c)
  exact Nat.le_trans (Nat.le_trans inside (Nat.le_add_left _ _)) part

end Action

namespace UnsignedAction

variable {u v : UnsignedAction}

theorem ofHex_toHex (core : u.core.length < UInt64.size)
    (sender : (Bytes.ofText u.sender).length < UInt64.size) : ofHex u.toHex = .ok u := by
  rw [ofHex, toHex, decodeHexAs_encode]
  exact decodeAs_eq_ok.mpr (decode_encode core sender)

theorem length_core_le (u : UnsignedAction) : u.core.length ≤ u.encode.length :=
  Nat.le_trans Field.length_octets_le (Message.length_write_le (m := format) List.mem_cons_self)

/-- A core that no length can count is not read back. -/
theorem length_core_of_ofHex (h : ofHex u.toHex = .ok v) : u.core.length < UInt64.size := by
  rw [ofHex, toHex, decodeHexAs_encode, decodeAs_eq_ok] at h
  by_contra long
  have some : u.core ≠ [] := by
    intro empty
    exact long (by rw [empty]; decide)
  obtain ⟨sender, written⟩ : ∃ sender, u.encode =
      Wire.writeKey ⟨1, .delimited⟩ ++ (Wire.writeDelimited u.core ++ sender) := by
    simp only [encode, Message.encode, format, Field.octets, List.flatMap_cons, if_neg some,
      List.append_assoc]
    exact ⟨_, rfl⟩
  rw [written] at h
  exact Message.decode_refused (by decide) List.mem_cons_self (List.mem_singleton_self 1)
    ⟨by decide, by decide⟩ (Field.octets_refused long sender) v h

end UnsignedAction

end LedgerGateway
