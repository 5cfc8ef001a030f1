import LedgerGateway.Proofs.Construction.Signed
import LedgerGateway.Proofs.Wire.Remainder

/-!
# Signed and unsigned transactions are told apart

Nothing in the octets says whether a transaction is signed: the first two fields of both formats
have the same numbers and the same form. What keeps them apart is the second one. Both readers see
the same octets there, of which one makes a public key and the other the text of an address. A key
begins with a control character, and an address does not.
-/

namespace LedgerGateway

open Outcome
open Wire (Message Field)

/-! ## The same octets -/

theorem Transfer.advances : Transfer.format.Advances := by
  simp [Message.Advances, Transfer.format]

theorem Execution.advances : Execution.format.Advances := by
  simp [Message.Advances, Execution.format]

theorem FundMovement.advances (name : String) : (FundMovement.format name).Advances := by
  simp [Message.Advances, FundMovement.format]

theorem GrantReward.advances : GrantReward.format.Advances := by
  simp [Message.Advances, GrantReward.format]

theorem StakeCreate.advances : StakeCreate.format.Advances := by
  simp [Message.Advances, StakeCreate.format]

theorem StakeReclaim.advances : StakeReclaim.format.Advances := by
  simp [Message.Advances, StakeReclaim.format]

theorem StakeAddDeposit.advances : StakeAddDeposit.format.Advances := by
  simp [Message.Advances, StakeAddDeposit.format]

theorem CandidateInfo.advances : CandidateInfo.format.Advances := by
  simp [Message.Advances, CandidateInfo.format]

theorem CandidateRegister.advances : CandidateRegister.format.Advances := by
  simp [Message.Advances, CandidateRegister.format, Field.nested_advances CandidateInfo.advances]

theorem Payload.case_advances : ∀ c ∈ Payload.cases, c.Advances := by
  simp [Payload.cases, Field.Case.of_advances, Transfer.advances, Execution.advances,
    FundMovement.advances, GrantReward.advances, StakeCreate.advances, StakeReclaim.advances,
    StakeAddDeposit.advances, CandidateRegister.advances]

theorem ActionCore.advances : ActionCore.format.Advances := by
  simp [Message.Advances, ActionCore.format, Field.oneOf_advances Payload.case_advances]

/-- What reading one field as a part of either format has in common. -/
theorem Action.readField_in_step {key : Wire.Key} {a a' : Action} {u u' : UnsignedAction}
    {b rest rest' : Bytes} (common : Bytes.ofText u.sender = a.senderKey)
    (h : Action.format.readField Message.maxDepth a key b = .ok (a', rest))
    (h' : UnsignedAction.format.readField Message.maxDepth u key b = .ok (u', rest')) :
    rest = rest' ∧ Bytes.ofText u'.sender = a'.senderKey := by
  obtain ⟨number, form⟩ := key
  -- a number that neither format knows
  have unknown (absent : (Action.format.fields.find? fun f => f.numbers.contains number) = none)
      (absent' : (UnsignedAction.format.fields.find? fun f => f.numbers.contains number) = none) :
      rest = rest' ∧ Bytes.ofText u'.sender = a'.senderKey := by
    obtain ⟨rfl, skipped⟩ := (Message.readField_unknown absent).mp h
    obtain ⟨rfl, skipped'⟩ := (Message.readField_unknown absent').mp h'
    exact ⟨Except.ok.inj (skipped.symm.trans skipped'), common⟩
  rcases number with _ | _ | _ | _ | n
  · exact unknown rfl rfl
  -- the core, as a message or as octets
  · obtain ⟨-, ⟨v, read⟩, core, rfl⟩ :=
      Field.nested_eq_ok ActionCore.advances (Message.within_eq_ok.mp h)
    obtain ⟨-, v', read', rfl⟩ := Field.octets_eq_ok.mp (Message.within_eq_ok.mp h')
    cases read.symm.trans read'
    exact ⟨rfl, common⟩
  -- the key of the sender, or the text of its address
  · obtain ⟨-, v, read, rfl⟩ := Field.octets_eq_ok.mp (Message.within_eq_ok.mp h)
    obtain ⟨-, v', s, read', valid, rfl⟩ := Field.text_eq_ok.mp (Message.within_eq_ok.mp h')
    cases read.symm.trans read'
    exact ⟨rfl, Bytes.ofText_of_toText? valid⟩
  -- the signature, which no unsigned transaction has
  · obtain ⟨rfl, v, read, rfl⟩ := Field.octets_eq_ok.mp (Message.within_eq_ok.mp h)
    obtain ⟨rfl, skipped⟩ := (Message.readField_unknown rfl).mp h'
    obtain ⟨⟨v', left⟩, read', ⟨⟩⟩ := bind_eq_ok.mp skipped
    cases read.symm.trans read'
    exact ⟨rfl, common⟩
  · exact unknown rfl rfl

/-- Octets that are both a signed and an unsigned transaction have the same second part. -/
theorem Action.senderKey_eq_sender {b : Bytes} {a : Action} {u : UnsignedAction}
    (h : Action.format.decode b = .ok a) (h' : UnsignedAction.format.decode b = .ok u) :
    Bytes.ofText u.sender = a.senderKey :=
  Message.decode_in_step Action.readField_in_step (by decide) h h'

/-! ## A key is no text of an address -/

/-- The marks of keys are control characters. -/
theorem PublicKey.mark_of_ofBytes {b : Bytes} {k : PublicKey} (h : ofBytes b = .ok k) :
    ∃ mark rest, b = mark :: rest ∧ (mark = 2 ∨ mark = 3 ∨ mark = 4 ∨ mark = 6 ∨ mark = 7) := by
  unfold ofBytes at h
  split at h
  · cases h
  · cases b with
    | nil => cases h
    | cons mark rest =>
      refine ⟨mark, rest, rfl, ?_⟩
      by_contra other
      simp only [not_or] at other
      obtain ⟨two, three, four, six, seven⟩ := other
      simp [point?, two, three, four, six, seven] at h

/-- A character that no address begins with: one below the visible ones that is not blank. -/
def Control (c : Char) : Prop := c.toNat < 33 ∧ Text.isBlank c = false

theorem Text.trimChars_cons {c : Char} (h : isBlank c = false) (cs : List Char) :
    ∃ rest, trimChars (c :: cs) = c :: rest := by
  have start : trimStart (c :: cs) = c :: cs := List.dropWhile_cons_of_neg (by simp [h])
  have last (xs : List Char) : trimStart (xs ++ [c]) = trimStart xs ++ [c] := by
    unfold trimStart
    rw [List.dropWhile_append]
    split
    · rename_i none
      rw [List.dropWhile_cons_of_neg (by simp [h]), List.isEmpty_iff.mp none, List.nil_append]
    · rfl
  refine ⟨(trimStart cs.reverse).reverse, ?_⟩
  rw [trimChars, start, List.reverse_cons, last, List.reverse_append, List.reverse_singleton,
    List.singleton_append]

/-- The head of a native text is the front of it, and its characters are visible. -/
theorem Bech32.split?_control {c : Char} (low : c.toNat < 33) (cs : List Char) :
    split? (c :: cs) = none := by
  unfold split?
  simp only
  split
  · rfl
  · rename_i mark head found
    have notHead : isHead head.reverse = false := by
      rw [← Bool.not_eq_true]
      intro good
      have whole := List.takeWhile_append_dropWhile (p := (· != '1')) (l := (c :: cs).reverse)
      rw [found] at whole
      have front := congrArg List.reverse whole
      rw [List.reverse_reverse, List.reverse_append, List.reverse_cons, List.append_assoc] at front
      cases parts : head.reverse with
      | nil =>
        rw [parts] at good
        cases good
      | cons first more =>
        rw [parts] at good front
        obtain ⟨rfl, -⟩ := List.cons.inj front
        simp only [isHead, Bool.and_eq_true, List.all_cons, decide_eq_true_eq] at good
        omega
    rw [notHead]
    rfl

theorem Address.ofText_control {s : String} {c : Char} {cs : List Char} (text : s.toList = c :: cs)
    (h : Control c) (a : Address) : ofText s ≠ .ok a := by
  obtain ⟨low, visible⟩ := h
  obtain ⟨rest, trimmed⟩ := Text.trimChars_cons visible cs
  have marked : c ≠ '0' := by
    rintro rfl
    exact absurd low (by decide)
  have native : Bech32.decode (c :: rest) = .error .form := by
    rw [Bech32.decode, Bech32.split?_control low]
  rw [ofText, text, trimmed]
  simp only [ofChars]
  split
  · rename_i same
    exact absurd (List.cons.inj same).1 marked
  · rename_i same
    exact absurd (List.cons.inj same).1 marked
  · rw [native]
    intro read
    cases read

/-- No address is written like a key. -/
theorem Address.ofText_key {s : String} {k : PublicKey}
    (h : PublicKey.ofBytes (Bytes.ofText s) = .ok k) (a : Address) : ofText s ≠ .ok a := by
  obtain ⟨mark, rest, octets, known⟩ := PublicKey.mark_of_ofBytes h
  have control : mark.toNat < 33 ∧ ∀ c : Char, c.toNat = mark.toNat → Text.isBlank c = false := by
    obtain rfl | rfl | rfl | rfl | rfl := known <;>
      exact ⟨by decide, fun c code => by simp [Text.isBlank, code]⟩
  obtain ⟨low, visible⟩ := control
  obtain ⟨c, cs, text, code⟩ := Bytes.head_of_ofText octets (by omega)
  exact ofText_control text ⟨by omega, visible c code⟩ a

/-! ## The two forms -/

theorem decodeHexAs_eq_ok {α : Type} {format : Message α} {s : String} {a : α} :
    decodeHexAs format s = .ok a ↔
      ∃ b, Hex.decode (Hex.withoutMark s) = .ok b ∧ format.decode b = .ok a := by
  unfold decodeHexAs
  cases Hex.decode (Hex.withoutMark s) <;> simp [decodeAs, mapError_eq_ok]

/-- Where the sender's key can be read, the text of an address cannot. -/
theorem UnsignedAction.sender_unreadable {transaction : String} {action : Action} {key : PublicKey}
    {unsigned : UnsignedAction} (read : Action.ofHex transaction = .ok action)
    (keyed : PublicKey.ofBytes action.senderKey = .ok key)
    (read' : UnsignedAction.ofHex transaction = .ok unsigned) (sender : Address) :
    unsigned.senderAddress ≠ .ok sender := by
  obtain ⟨b, octets, inside⟩ := decodeHexAs_eq_ok.mp read
  obtain ⟨b', octets', inside'⟩ := decodeHexAs_eq_ok.mp read'
  cases octets.symm.trans octets'
  intro named
  rw [← Action.senderKey_eq_sender inside inside'] at keyed
  exact Address.ofText_key keyed sender (readAddress_eq_ok.mp named)

/-- A text that is parsed as a signed transaction is not parsed as an unsigned one, whatever the
currency, and no signature is combined with it. -/
theorem ParsedTransaction.signed_not_unsigned {transaction : String} {currency : Currency}
    {p : ParsedTransaction} (h : ofRequest ⟨true, transaction⟩ currency = .ok p) :
    (∀ currency' q, ofRequest ⟨false, transaction⟩ currency' ≠ .ok q) ∧
      ∀ signatures signed, SignedTransaction.combine ⟨transaction, signatures⟩ ≠ .ok signed := by
  obtain ⟨core, sender, read, -⟩ := ofRequest_eq_ok.mp h
  obtain ⟨action, key, haction, verified, -, -⟩ := readSigned_eq_ok.mp read
  obtain ⟨keyed, -⟩ := Action.verifySignature_eq_ok.mp verified
  constructor
  · intro currency' q parsed
    obtain ⟨core', sender', read', -⟩ := ofRequest_eq_ok.mp parsed
    obtain ⟨unsigned, hunsigned, -, named⟩ := of_readUnsigned_eq_ok read'
    exact UnsignedAction.sender_unreadable haction keyed hunsigned sender' named
  · intro signatures signed combined
    obtain ⟨s, -, unsigned, hunsigned, core', -, sender', named, -⟩ :=
      SignedTransaction.combine_eq_ok.mp combined
    exact UnsignedAction.sender_unreadable haction keyed hunsigned sender' named

namespace Specimen

/-- The signed transfer can be parsed, but not as if it were unsigned. -/
theorem signed_one_form : (∃ p, ParsedTransaction.ofRequest ⟨true, signed⟩ .native = .ok p) ∧
    ∀ q, ParsedTransaction.ofRequest ⟨false, signed⟩ .native ≠ .ok q := by
  obtain ⟨unparsed, -⟩ := ParsedTransaction.signed_not_unsigned signed_parsed
  exact ⟨⟨_, signed_parsed⟩, unparsed .native⟩

end Specimen

end LedgerGateway
