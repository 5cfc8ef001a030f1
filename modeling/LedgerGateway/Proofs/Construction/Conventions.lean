import LedgerGateway.Proofs.Construction.Signed

/-!
# Wallets sign in different conventions

Some wallets count the recovery number from 27 and some leave it out. The same signature in any of
these forms makes the same signed transaction, and so does the same key in any of its encodings.
Whatever the form was, the halves stand in the signed transaction as they came, before a recovery
number that is a bit.
-/

namespace LedgerGateway

open Outcome

namespace Signature

variable {halves : Bytes} {digest : Digest} {signer : PublicKey} {v : Fin 4} {sig : Signature}

/-- The forms of one signature: with its recovery number, with the number counted from 27,
and without it. -/
def forms (halves : Bytes) (v : Fin 4) : List Bytes :=
  [halves ++ [UInt8.ofNat v.val], halves ++ [UInt8.ofNat (v.val + 27)], halves]

theorem ofBytesForSigner_forms (length : halves.length = 64) (bit : v.val ≤ 1)
    (read : ofHalves? halves v = some sig) (recovered : sig.recover? digest = some signer)
    (apart : Apart digest halves) :
    ∀ octets ∈ forms halves v, ofBytesForSigner octets digest signer = .ok sig := by
  simp only [forms, List.forall_mem_cons, List.not_mem_nil, false_imp_iff, implies_true, and_true]
  refine ⟨?_, ?_, ?_⟩
  · exact ofBytesForSigner_recoverable length read recovered (recoveryOf?_bit bit)
  · exact ofBytesForSigner_recoverable length read recovered (recoveryOf?_offset bit)
  · exact ofBytesForSigner_compact length bit read recovered apart

/-- What is accepted for a signer is written as the halves that came and the recovery number
that was found. -/
theorem bytes_of_accepted {octets : Bytes} (h : ofBytesForSigner octets digest signer = .ok sig) :
    sig.bytes = octets.take 64 ++ [UInt8.ofNat sig.recovery.val] := by
  obtain ⟨length, -, read, -⟩ := ofBytesForSigner_recovers h
  refine bytes_of_ofHalves? read ?_
  rw [List.length_take]
  omega

end Signature

namespace SignedTransaction

variable {transaction : String} {unsigned : UnsignedAction} {core : ActionCore} {sender : Address}

/-- All forms of a signature and all encodings of its key make the same signed transaction. Where
the recovery number is left out, this rests on the group, in which the two numbers never recover the
same key. Conversely, what was made carries the halves that came, and a recovery number that is a
bit and recovers the key. -/
theorem conventions_agree (hunsigned : UnsignedAction.ofHex transaction = .ok unsigned)
    (hcore : unsigned.decodeCore = .ok core) (hsender : unsigned.senderAddress = .ok sender) :
    (∀ key, Address.ofKey key = sender →
      ∀ (halves : Bytes) (v : Fin 4), halves.length = 64 → v.val ≤ 1 →
        Signature.Recovers core.signingDigest halves v key →
        Signature.Apart core.signingDigest halves →
      ∀ s : SignatureText, s.key.read = .ok key →
        (∃ octets ∈ Signature.forms halves v,
          Hex.decode (Hex.withoutMarks s.hexBytes) = .ok octets) →
        combine ⟨transaction, [s]⟩ =
          .ok (⟨some core, key.uncompressed, halves ++ [UInt8.ofNat v.val]⟩ : Action).toHex) ∧
    ∀ signatures signed, combine ⟨transaction, signatures⟩ = .ok signed →
      ∃ s key octets, signatures = [s] ∧ s.key.read = .ok key ∧ Address.ofKey key = sender ∧
        Hex.decode (Hex.withoutMarks s.hexBytes) = .ok octets ∧
        (octets.length = 64 ∨ octets.length = 65) ∧
        ∃ v : Fin 4, v.val ≤ 1 ∧ Signature.Recovers core.signingDigest (octets.take 64) v key ∧
          signed = (⟨some core, key.uncompressed, octets.take 64 ++ [UInt8.ofNat v.val]⟩ :
            Action).toHex := by
  constructor
  · intro key own halves v length bit recovers apart s hkey written
    obtain ⟨sig, read, recovered⟩ := recovers
    obtain ⟨octets, form, written⟩ := written
    have accepted := Signature.ofBytesForSigner_forms length bit read recovered apart octets form
    have signature : readSignature s core sender = .ok (key, sig) :=
      readSignature_eq_ok.mpr ⟨hkey, own, octets, written, accepted⟩
    apply combine_eq_ok.mpr
    refine ⟨s, rfl, unsigned, hunsigned, core, hcore, sender, hsender, key, sig, signature, ?_⟩
    rw [ActionCore.signed, Signature.bytes_of_ofHalves? read length]
  · intro signatures signed h
    obtain ⟨s, one, unsigned', hunsigned', core', hcore', sender', hsender',
        key, sig, signature, rfl⟩ :=
      combine_eq_ok.mp h
    obtain rfl := Except.ok.inj (hunsigned.symm.trans hunsigned')
    obtain rfl := Except.ok.inj (hcore.symm.trans hcore')
    obtain rfl := Except.ok.inj (hsender.symm.trans hsender')
    obtain ⟨hkey, own, octets, written, accepted⟩ := readSignature_eq_ok.mp signature
    obtain ⟨length, bit, read, recovered⟩ := Signature.ofBytesForSigner_recovers accepted
    refine ⟨s, key, octets, one, hkey, own, written, length, sig.recovery, bit,
      ⟨sig, read, recovered⟩, ?_⟩
    rw [ActionCore.signed, Signature.bytes_of_accepted accepted]

end SignedTransaction

/-! The signature without its recovery number makes the same transaction as the one that was
signed. -/

namespace Specimen

theorem signing_in_any_convention :
    SignedTransaction.combine signing =
      .ok (⟨some core, signer.uncompressed, halves ++ [1]⟩ : Action).toHex := by
  have inside : (UnsignedAction.ofCore core signerTransfer.sender).decodeCore = .ok core :=
    ActionCore.decode_encode core_length
  have named : (UnsignedAction.ofCore core signerTransfer.sender).senderAddress =
      .ok signerTransfer.sender :=
    readAddress_text signerTransfer.sender
  obtain ⟨agree, -⟩ := SignedTransaction.conventions_agree
    (UnsignedAction.ofHex_toHex core_length (Address.length_text signerTransfer.sender))
    inside named
  exact agree signer rfl halves 1 (by decide) (by decide) halves_recover halves_apart signatureText
    (KeyText.read_uncompressed signer) ⟨halves, by simp [Signature.forms], halves_text⟩

end Specimen

end LedgerGateway
