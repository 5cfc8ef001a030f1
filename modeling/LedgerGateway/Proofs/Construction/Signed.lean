import LedgerGateway.Proofs.Construction.Unsigned
import LedgerGateway.Proofs.Key
import LedgerGateway.Proofs.Node

/-!
# Signed transactions hold downstream

What comes out of `SignedTransaction.combine` needs no further check. It is read back as the core
that was to be signed, its signature is good for the key of the sender, parsing tells of it what
parsing told of the unsigned transaction, and it reaches the node. None of this depends on what
the core pays for.
-/

namespace LedgerGateway

open Outcome

namespace SignedTransaction

theorem readSignature_eq_ok {s : SignatureText} {core : ActionCore} {sender : Address}
    {key : PublicKey} {sig : Signature} :
    readSignature s core sender = .ok (key, sig) ↔
      s.key.read = .ok key ∧ Address.ofKey key = sender ∧
        ∃ octets, Hex.decode (Hex.withoutMarks s.hexBytes) = .ok octets ∧
          Signature.ofBytesForSigner octets core.signingDigest key = .ok sig := by
  rw [readSignature, bind_eq_ok]
  constructor
  · rintro ⟨read, hread, h⟩
    by_cases own : Address.ofKey read = sender
    · simp only [ne_eq, own, not_true_eq_false, if_false, bind_eq_ok, mapError_eq_ok, pure_eq_ok,
        Prod.mk.injEq] at h
      obtain ⟨octets, hoctets, _, accepted, rfl, rfl⟩ := h
      exact ⟨hread, own, octets, hoctets, accepted⟩
    · rw [if_pos own] at h
      exact absurd h throw_ne_ok
  · rintro ⟨hread, own, octets, hoctets, accepted⟩
    refine ⟨key, hread, ?_⟩
    simp only [ne_eq, own, not_true_eq_false, if_false, bind_eq_ok, mapError_eq_ok, pure_eq_ok]
    exact ⟨octets, hoctets, sig, accepted, rfl⟩

theorem combine_eq_ok {req : CombineRequest} {signed : String} :
    combine req = .ok signed ↔
      ∃ s, req.signatures = [s] ∧
        ∃ unsigned, UnsignedAction.ofHex req.transaction = .ok unsigned ∧
          ∃ core, unsigned.decodeCore = .ok core ∧
            ∃ sender, unsigned.senderAddress = .ok sender ∧
              ∃ key sig, readSignature s core sender = .ok (key, sig) ∧
                (core.signed key sig.bytes).toHex = signed := by
  unfold combine
  split
  · rename_i s one
    simp only [one, bind_eq_ok, mapError_eq_ok, pure_eq_ok, List.cons.injEq, and_true,
      exists_eq_left', Prod.exists]
  · rename_i many
    constructor
    · rintro ⟨⟩
    · rintro ⟨s, one, -⟩
      exact absurd one (many s)

theorem ofHex_signed {core : ActionCore} (signer : PublicKey) (sig : Signature)
    (sized : core.encode.length < UInt64.size) :
    Action.ofHex (core.signed signer sig.bytes).toHex = .ok (core.signed signer sig.bytes) := by
  have key : (core.signed signer sig.bytes).senderKey.length < UInt64.size := by
    simp only [ActionCore.signed, PublicKey.uncompressed, List.length_cons, List.length_append,
      Bytes.length_ofNat]
    decide
  have signature : (core.signed signer sig.bytes).signature.length < UInt64.size := by
    simp only [ActionCore.signed, Signature.bytes, List.length_cons, List.length_nil,
      List.length_append, Bytes.length_ofNat]
    decide
  rw [Action.ofHex_toHex_eq]
  refine Action.ofBytes_encode (fun c hc => ?_) key signature
  obtain rfl := Option.some.inj hc
  exact sized

theorem sized_of_held {core : ActionCore} {signer : PublicKey} {sig : Signature}
    (held : (core.signed signer sig.bytes).toHex.length < 2 * UInt64.size) :
    core.encode.length < UInt64.size := by
  have part : core.encode.length ≤ (core.signed signer sig.bytes).encode.length :=
    Action.length_core_le rfl
  rw [Action.toHex, Hex.length_encode] at held
  omega

/-- A signature that was accepted for the signer of a core is good once it stands in the action. -/
theorem verifySignature_signed {core : ActionCore} {key : PublicKey} {sig : Signature}
    (bit : sig.recovery.val ≤ 1) (good : sig.verify core.signingDigest key = true) :
    (core.signed key sig.bytes).verifySignature = .ok key :=
  Action.verifySignature_eq_ok.mpr
    ⟨PublicKey.ofBytes_uncompressed key, core, sig, rfl, Signature.ofRecoverable_bytes bit, good⟩

theorem readSigned_signed {core : ActionCore} {key : PublicKey} {sig : Signature}
    (sized : core.encode.length < UInt64.size) (bit : sig.recovery.val ≤ 1)
    (good : sig.verify core.signingDigest key = true) :
    ParsedTransaction.readSigned (core.signed key sig.bytes).toHex =
      .ok (core, Address.ofKey key) :=
  ParsedTransaction.readSigned_eq_ok.mpr
    ⟨_, key, ofHex_signed key sig sized, verifySignature_signed bit good, rfl, rfl⟩

theorem hash_of_ofHex {transaction : String} {action : Action}
    (read : Action.ofHex transaction = .ok action) :
    hash transaction = .ok (ActionHash.text action.hash) := by
  rw [hash, bind_eq_ok]
  exact ⟨action, mapError_eq_ok.mpr read, rfl⟩

/-- A verified action is handed over, and whatever the node answers ends the conversation. -/
theorem submit_verified {transaction : String} {action : Action} {key : PublicKey}
    (read : Action.ofHex transaction = .ok action) (verified : action.verifySignature = .ok key) :
    ∃ last : Except NodeError (Option String) → Except ConstructionError String,
      submit transaction = Talk.ask (.submit action) fun answer => .done (last answer) := by
  have known : (Action.ofHex transaction).mapError ConstructionError.parse = .ok action :=
    mapError_eq_ok.mpr read
  have checked : (action.verifySignature.mapError fun e =>
      ConstructionError.invalidSignature (.envelope e)) = .ok key := mapError_eq_ok.mpr verified
  refine ⟨fun answer => match answer.mapError ConstructionError.submit with
    | .ok (some name) => .ok (if name = "" then ActionHash.text action.hash else name)
    | .ok none => .ok (ActionHash.text action.hash)
    | .error e => .error e, ?_⟩
  rw [submit, known, Talk.ofExcept_ok_bind, checked, Talk.ofExcept_ok_bind]
  refine congrArg (Talk.ask _) (funext fun answer => ?_)
  cases answer with
  | error e => rfl
  | ok name => cases name <;> rfl

/-- A signed action whose signature is good reaches the node, and nothing else is asked. -/
theorem queries_submit {transaction : String} {action : Action} {key : PublicKey}
    (read : Action.ofHex transaction = .ok action) (verified : action.verifySignature = .ok key)
    (node : Responder) : Talk.queries node (submit transaction) = [.submit action] := by
  obtain ⟨last, shape⟩ := submit_verified read verified
  rw [shape]
  rfl

/-- What was combined is sound for all that comes after. The bound on its length is the one on
octets that a length can count; a text beyond it fits into no memory. -/
theorem sound {req : CombineRequest} {signed : String} (h : combine req = .ok signed)
    (held : signed.length < 2 * UInt64.size) :
    ∃ unsigned core sender action key,
      UnsignedAction.ofHex req.transaction = .ok unsigned ∧ unsigned.decodeCore = .ok core ∧
      unsigned.senderAddress = .ok sender ∧
      Action.ofHex signed = .ok action ∧ action.core = some core ∧
      action.verifySignature = .ok key ∧ Address.ofKey key = sender ∧
      (∀ currency,
        (∃ operations parameters,
          ParsedTransaction.ofRequest ⟨true, signed⟩ currency =
            .ok ⟨operations, [sender.text], parameters⟩ ∧
          ParsedTransaction.ofRequest ⟨false, req.transaction⟩ currency =
            .ok ⟨operations, [], parameters⟩) ∨
        ∃ e, ParsedTransaction.FaultOfCore e ∧
          ParsedTransaction.ofRequest ⟨true, signed⟩ currency = .error e ∧
          ParsedTransaction.ofRequest ⟨false, req.transaction⟩ currency = .error e) ∧
      (∃ octets, Hex.decode signed = .ok octets ∧
        hash signed = .ok (Hex.encode (Hash.digest256 octets).bytes)) ∧
      ∀ node, Talk.queries node (submit signed) = [.submit action] := by
  obtain ⟨s, -, unsigned, hunsigned, core, hcore, sender, hsender, key, sig, hsig, rfl⟩ :=
    combine_eq_ok.mp h
  obtain ⟨-, own, octets, -, accepted⟩ := readSignature_eq_ok.mp hsig
  obtain ⟨bit, good⟩ := Signature.ofBytesForSigner_eq_ok accepted
  have sized : core.encode.length < UInt64.size := sized_of_held held
  have action := ofHex_signed key sig sized
  have verified := verifySignature_signed bit good
  refine ⟨unsigned, core, sender, core.signed key sig.bytes, key, hunsigned, hcore, hsender, action,
    rfl, verified, own, fun currency => ?_, ?_, fun node => ?_⟩
  · -- both are read as the same core of the same sender, though one finds the sender in a text,
    -- the other in a key
    have told := ParsedTransaction.ofRequest_signed (readSigned_signed sized bit good) currency
    have before := ParsedTransaction.ofRequest_unsigned
      (ParsedTransaction.readUnsigned_eq_ok hunsigned hcore hsender) currency
    rw [own] at told
    rw [told, before]
    obtain ⟨operations, parameters, all⟩ | ⟨e, fault, all⟩ :=
      ParsedTransaction.ofCore_cases core sender currency
    · exact .inl ⟨operations, parameters, all _, all _⟩
    · exact .inr ⟨e, fault, all _, all _⟩
  · exact ⟨(core.signed key sig.bytes).encode, Hex.decode_encode _, hash_of_ofHex action⟩
  · exact queries_submit action verified node

end SignedTransaction

/-- A key is read back from the text of both of its coordinates. -/
theorem KeyText.read_uncompressed (k : PublicKey) :
    (⟨Hex.encode k.uncompressed, curve⟩ : KeyText).read = .ok k := by
  rw [read, if_neg (by simp), mapError_eq_ok, PublicKey.ofHex, Hex.withoutMark_encode,
    Hex.decode_encode]
  exact PublicKey.ofBytes_uncompressed k

/-! The transfer is signed with the key one and the nonce one. The signature comes without its
recovery number. -/

namespace Specimen

def signer : PublicKey := SecretKey.one.publicKey

def signerTransfer : TransferPair := { transfer with sender := Address.ofKey signer }

def core : ActionCore := UnsignedTransaction.core signerTransfer order.parameters 1

def signature : Signature where
  r := Curve.generator.1
  s := 30103338217262126667539846596771083209513364896816542473495207778988595023866
  recovery := Signature.recoveryOfPoint false true
  r_lt := by decide
  s_lt := by decide

def halves : Bytes := signature.bytes.take 64

def signatureText : SignatureText where
  payload := ⟨"", "", ""⟩
  key := ⟨Hex.encode signer.uncompressed, KeyText.curve⟩
  signatureType := UnsignedTransaction.signatureType
  hexBytes := "0x" ++ Hex.encode halves

def signing : CombineRequest where
  transaction := (UnsignedAction.ofCore core signerTransfer.sender).toHex
  signatures := [signatureText]

def signed : String := (core.signed signer signature.bytes).toHex

/-- The core does not tell the sender, so it is the one of the transfer before. -/
theorem core_length : core.encode.length < UInt64.size := by
  have part : 2 * core.encode.length ≤ unsigned.transaction.length :=
    UnsignedTransaction.length_core_le transfer order.parameters 1
  have held := unsigned_length
  omega

theorem halves_text : Hex.decode (Hex.withoutMarks ("0x" ++ Hex.encode halves)) = .ok halves := by
  rw [Hex.withoutMarks_mark_encode, Hex.decode_encode]

theorem halves_read : Signature.ofHalves? halves 1 = some signature :=
  Signature.ofHalves?_bytes signature

theorem recovered_keys : signature.recover? core.signingDigest = some signer ∧
    ((Signature.ofHalves? halves 0).bind fun sig => sig.recover? core.signingDigest) ≠
      some signer := by
  decide +kernel

theorem halves_recover : Signature.Recovers core.signingDigest halves 1 signer :=
  ⟨signature, halves_read, recovered_keys.1⟩

theorem halves_not_recover : ¬ Signature.Recovers core.signingDigest halves 0 signer := by
  rintro ⟨wrong, read, recovered⟩
  have other := recovered_keys.2
  rw [read, Option.bind_some] at other
  exact other recovered

theorem halves_apart : Signature.Apart core.signingDigest halves := by
  intro key v w hv hw first second
  have either : ∀ u : Fin 4, u.val ≤ 1 → u = 0 ∨ u = 1 := by decide
  obtain rfl | rfl := either v hv <;> obtain rfl | rfl := either w hw
  · rfl
  · exact absurd (halves_recover.unique second ▸ first) halves_not_recover
  · exact absurd (halves_recover.unique first ▸ second) halves_not_recover
  · rfl

theorem signature_accepted :
    Signature.ofBytesForSigner halves core.signingDigest signer = .ok signature := by
  have length : halves.length = 64 := rfl
  exact Signature.ofBytesForSigner_compact length (by decide) halves_read
    recovered_keys.1 halves_apart

theorem signing_combined : SignedTransaction.combine signing = .ok signed := by
  have read : SignedTransaction.readSignature signatureText core signerTransfer.sender =
      .ok (signer, signature) :=
    SignedTransaction.readSignature_eq_ok.mpr
      ⟨KeyText.read_uncompressed signer, rfl, halves, halves_text, signature_accepted⟩
  exact SignedTransaction.combine_eq_ok.mpr ⟨signatureText, rfl, _,
    UnsignedAction.ofHex_toHex core_length (Address.length_text _),
    core, ActionCore.decode_encode core_length, signerTransfer.sender, readAddress_text _,
    signer, signature, read, rfl⟩

theorem signed_length : signed.length < 2 * UInt64.size := by
  have octets : (core.signed signer signature.bytes).encode.length < UInt64.size := by
    decide +kernel
  have text : signed.length = 2 * (core.signed signer signature.bytes).encode.length :=
    Hex.length_encode _
  omega

theorem signed_parsed : ParsedTransaction.ofRequest ⟨true, signed⟩ .native =
    .ok ⟨signerTransfer.operations .native, [(Address.ofKey signer).text], order.parameters⟩ := by
  obtain ⟨bit, good⟩ := Signature.ofBytesForSigner_eq_ok signature_accepted
  exact (ParsedTransaction.ofRequest_signed
      (SignedTransaction.readSigned_signed core_length bit good) .native).trans
    (ParsedTransaction.ofCore_transfer _ signerTransfer order.parameters 1 .native)

theorem signed_sound : ∃ action, Action.ofHex signed = .ok action ∧ action.core = some core ∧
    ∀ node, Talk.queries node (SignedTransaction.submit signed) = [.submit action] := by
  obtain ⟨unsigned, core', sender, action, key, hunsigned, hcore, -,
      haction, carried, -, -, -, -, submitted⟩ :=
    SignedTransaction.sound signing_combined signed_length
  obtain rfl := Except.ok.inj
    (hunsigned.symm.trans (UnsignedAction.ofHex_toHex core_length (Address.length_text _)))
  obtain rfl := Except.ok.inj (hcore.symm.trans (ActionCore.decode_encode core_length))
  exact ⟨action, haction, carried, submitted⟩

end Specimen

end LedgerGateway
