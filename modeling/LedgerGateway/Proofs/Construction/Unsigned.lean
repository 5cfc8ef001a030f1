import LedgerGateway.Proofs.Action.Envelope
import LedgerGateway.Proofs.Construction.Reading

/-!
# Unsigned transactions are read back

A transfer may be asked for in many ways: with addresses in base 16, with blanks around them, with
any numbers on the operations. The unsigned transaction keeps none of that. Reading it gives the two
operations in their one form, and building it again from what was read changes nothing.
-/

namespace LedgerGateway

open Outcome

namespace ParsedTransaction

/-- The unsigned transaction of a transfer is read back as its core and its sender. -/
theorem readUnsigned_ofCore {core : ActionCore} (sized : core.encode.length < UInt64.size)
    (sender : Address) :
    readUnsigned (UnsignedAction.ofCore core sender).toHex = .ok (core, sender) := by
  have whole :=
    UnsignedAction.ofHex_toHex (u := .ofCore core sender) sized (Address.length_text sender)
  exact readUnsigned_eq_ok whole (ActionCore.decode_encode sized) (readAddress_text sender)

end ParsedTransaction

namespace UnsignedTransaction

variable {req : PayloadsRequest} {ctx : ConstructionContext} {u : UnsignedTransaction}

/-- The unsigned transaction of a transfer, once the operations have been read. -/
def ofPair (pair : TransferPair) (p : ActionParameters) (chainId : UInt32) : UnsignedTransaction :=
  let core := core pair p chainId
  ⟨(UnsignedAction.ofCore core pair.sender).toHex,
    [⟨pair.sender.text, Hex.encode core.signingDigest.bytes, signatureType⟩]⟩

theorem ofRequest_eq_ok : ofRequest req ctx = .ok u ↔
    ∃ pair, TransferPair.ofOperations ctx.currency req.operations = .ok pair ∧
      requireKey pair.sender req.keys = .ok () ∧ ofPair pair req.parameters ctx.chainId = u := by
  simp only [ofRequest, bind_eq_ok, pure_eq_ok, ofPair]
  constructor
  · rintro ⟨pair, hpair, ⟨⟩, hkey, rfl⟩
    exact ⟨pair, hpair, hkey, rfl⟩
  · rintro ⟨pair, hpair, hkey, rfl⟩
    exact ⟨pair, hpair, (), hkey, rfl⟩

theorem length_core_le (pair : TransferPair) (p : ActionParameters) (chainId : UInt32) :
    2 * (core pair p chainId).encode.length ≤ (ofPair pair p chainId).transaction.length := by
  have part :=
    UnsignedAction.length_core_le (UnsignedAction.ofCore (core pair p chainId) pair.sender)
  rw [ofPair, UnsignedAction.toHex, Hex.length_encode]
  exact Nat.mul_le_mul_left 2 part

/-- Reading an unsigned transaction gives the two operations of its transfer and the parameters that
were asked for, and building it from them again, with the same keys or with none, gives the same
transaction. The bound on its length is the one on octets that a length can count; a text beyond it
fits into no memory. -/
theorem parsed_back (h : ofRequest req ctx = .ok u)
    (held : u.transaction.length < 2 * UInt64.size) :
    ∃ pair, TransferPair.ofOperations ctx.currency req.operations = .ok pair ∧
      ParsedTransaction.ofRequest ⟨false, u.transaction⟩ ctx.currency =
        .ok { operations := pair.operations ctx.currency, signers := [],
              parameters := req.parameters } ∧
      (∀ keys, keys = req.keys ∨ keys = [] →
        ofRequest ⟨pair.operations ctx.currency, req.parameters, keys⟩ ctx = .ok u) ∧
      ∃ unsigned, UnsignedAction.ofHex u.transaction = .ok unsigned ∧
        u.payloads = [⟨pair.sender.text,
          Hex.encode (Hash.digest256 unsigned.core).bytes, signatureType⟩] := by
  obtain ⟨pair, hpair, hkey, rfl⟩ := ofRequest_eq_ok.mp h
  have sized : (core pair req.parameters ctx.chainId).encode.length < UInt64.size := by
    have part := length_core_le pair req.parameters ctx.chainId
    omega
  refine ⟨pair, hpair, ?_, fun keys hkeys => ?_, _,
    UnsignedAction.ofHex_toHex sized (Address.length_text pair.sender), rfl⟩
  · have read := ParsedTransaction.readUnsigned_ofCore sized pair.sender
    exact (ParsedTransaction.ofRequest_unsigned read ctx.currency).trans
      (ParsedTransaction.ofCore_transfer [] pair req.parameters ctx.chainId ctx.currency)
  · refine ofRequest_eq_ok.mpr
      ⟨pair, TransferPair.ofOperations_operations pair ctx.currency, ?_, rfl⟩
    obtain rfl | rfl := hkeys
    · exact hkey
    · rfl

end UnsignedTransaction

/-! A transfer of which one address is in base 16 behind a blank, and whose operations have
arbitrary numbers. -/

namespace Specimen

def transfer : TransferPair := ⟨⟨List.replicate 20 1, rfl⟩, ⟨List.replicate 20 2, rfl⟩, 1000⟩

def order : PayloadsRequest where
  operations := [
    { index := 5, type := .nativeTransfer, account := " " ++ transfer.sender.hexText,
      amount := ⟨-1000, .native⟩ },
    { index := 2, type := .nativeTransfer, account := transfer.recipient.text,
      amount := ⟨1000, .native⟩ }]
  parameters := ⟨7, 21000, 3⟩

def unsigned : UnsignedTransaction := .ofPair transfer order.parameters 1

theorem order_pair : TransferPair.ofOperations .native order.operations = .ok transfer := by
  decide +kernel

theorem order_accepted : UnsignedTransaction.ofRequest order {} = .ok unsigned :=
  UnsignedTransaction.ofRequest_eq_ok.mpr ⟨transfer, order_pair, rfl, rfl⟩

theorem unsigned_length : unsigned.transaction.length < 2 * UInt64.size := by
  rw [unsigned, UnsignedTransaction.ofPair, UnsignedAction.toHex, Hex.length_encode]
  decide +kernel

theorem order_parsed_back :
    ∃ p, ParsedTransaction.ofRequest ⟨false, unsigned.transaction⟩ .native = .ok p ∧
      p.parameters = ⟨7, 21000, 3⟩ ∧
      UnsignedTransaction.ofRequest ⟨p.operations, p.parameters, []⟩ {} = .ok unsigned := by
  obtain ⟨pair, -, parsed, again, -⟩ :=
    UnsignedTransaction.parsed_back order_accepted unsigned_length
  exact ⟨_, parsed, rfl, again [] (.inr rfl)⟩

end Specimen

end LedgerGateway
