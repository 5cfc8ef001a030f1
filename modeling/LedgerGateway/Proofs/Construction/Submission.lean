import LedgerGateway.Proofs.Construction.Signed

/-!
# What reaches the node

A signed transaction reaches the node at most once, and only after its signature was found good for
the key inside it; nothing else is asked of the node. The signature is all that is looked at.
Parsing looks at the payload as well, so an action whose signature is good reaches the node also
when parsing refuses it.
-/

namespace LedgerGateway

open Outcome

/-- What parsing asks of a core besides a good signature: a transfer whose recipient, amount and gas
price can be read. -/
def ActionCore.TellsTransfer (core : ActionCore) : Prop :=
  (∃ t, core.payload = some (.transfer t) ∧
    (∃ recipient, Address.ofText t.recipient = .ok recipient) ∧
    Digits t.amount) ∧ ∃ price, Decimal.word? core.gasPrice.toList = some price

namespace ParsedTransaction

variable {core : ActionCore} {sender : Address} {transaction : String}

theorem readPair_succeeds : (∃ pair, readPair core sender = .ok pair) ↔
    ∃ t, core.payload = some (.transfer t) ∧
      (∃ recipient, Address.ofText t.recipient = .ok recipient) ∧
      Digits t.amount := by
  simp only [readPair_eq_ok, ← exists_nat?_iff]
  constructor
  · rintro ⟨pair, t, hpayload, hrecipient, hamount, -⟩
    exact ⟨t, hpayload, ⟨_, hrecipient⟩, _, hamount⟩
  · rintro ⟨t, hpayload, ⟨recipient, hrecipient⟩, amount, hamount⟩
    exact ⟨⟨sender, recipient, amount⟩, t, hpayload, hrecipient, hamount, rfl⟩

/-- Whether a core is parsed does not depend on who signed it. -/
theorem ofCore_succeeds (signers : List String) (currency : Currency) :
    (∃ p, ofCore signers core sender currency = .ok p) ↔ core.TellsTransfer := by
  rw [ActionCore.TellsTransfer, ← @readPair_succeeds core sender]
  simp only [ofCore_eq_ok]
  constructor
  · rintro ⟨_, pair, hpair, price, hprice, -⟩
    exact ⟨⟨pair, hpair⟩, price, hprice⟩
  · rintro ⟨⟨pair, hpair⟩, price, hprice⟩
    exact ⟨_, pair, hpair, price, hprice, rfl⟩

/-- What is parsed as signed was read as signed before. -/
theorem readSigned_of_ofRequest {currency : Currency} {p : ParsedTransaction}
    (h : ofRequest ⟨true, transaction⟩ currency = .ok p) :
    ∃ core sender, readSigned transaction = .ok (core, sender) := by
  obtain ⟨core, sender, read, -⟩ := ofRequest_eq_ok.mp h
  exact ⟨core, sender, read⟩

end ParsedTransaction

namespace SignedTransaction

variable {transaction : String}

/-- What cannot be verified ends the conversation before it began. -/
theorem submit_unverified
    (h : ∀ action, Action.ofHex transaction = .ok action →
      ∀ key, action.verifySignature ≠ .ok key) :
    ∃ e, submit transaction = Talk.ofExcept (.error e) := by
  cases read : Action.ofHex transaction with
  | error e =>
    exact ⟨.parse e, by rw [submit, read, Except.mapError, Talk.ofExcept_error_bind]⟩
  | ok action =>
    cases verified : action.verifySignature with
    | ok key => exact absurd verified (h action read key)
    | error e =>
      exact ⟨.invalidSignature (.envelope e), by
        rw [submit, read, Except.mapError, Talk.ofExcept_ok_bind, verified, Except.mapError,
          Talk.ofExcept_error_bind]⟩

/-- Submitting asks nothing, and then parsing refuses the transaction too; or it asks one thing,
which is to take an action whose signature was verified, and then parsing accepts the transaction
exactly when its core tells a transfer. This is so for any node, also for one that changes. -/
theorem submit_asks_once (transaction : String) (node : Nat → Responder) :
    (∃ action key core, Action.ofHex transaction = .ok action ∧ action.verifySignature = .ok key ∧
      action.core = some core ∧ (Talk.runFrom node 0 (submit transaction)).2 = [.submit action] ∧
      ∀ currency, (∃ p, ParsedTransaction.ofRequest ⟨true, transaction⟩ currency = .ok p) ↔
        core.TellsTransfer) ∨
    ((Talk.runFrom node 0 (submit transaction)).2 = [] ∧
      ∀ currency p, ParsedTransaction.ofRequest ⟨true, transaction⟩ currency ≠ .ok p) := by
  by_cases good : ∃ action key, Action.ofHex transaction = .ok action ∧
      action.verifySignature = .ok key
  · obtain ⟨action, key, read, verified⟩ := good
    obtain ⟨-, core, -, carried, -⟩ := Action.verifySignature_eq_ok.mp verified
    obtain ⟨last, shape⟩ := submit_verified read verified
    refine .inl ⟨action, key, core, read, verified, carried, ?_, fun currency => ?_⟩
    · rw [shape]
      rfl
    · have signed :=
        ParsedTransaction.readSigned_eq_ok.mpr ⟨action, key, read, verified, carried, rfl⟩
      rw [ParsedTransaction.ofRequest_signed signed]
      exact ParsedTransaction.ofCore_succeeds _ currency
  · obtain ⟨e, shape⟩ :=
      submit_unverified fun action read key verified => good ⟨action, key, read, verified⟩
    refine .inr ⟨?_, fun currency p parsed => ?_⟩
    · rw [shape]
      rfl
    · obtain ⟨core, sender, read⟩ := ParsedTransaction.readSigned_of_ofRequest parsed
      obtain ⟨action, key, read, verified, -⟩ := ParsedTransaction.readSigned_eq_ok.mp read
      exact good ⟨action, key, read, verified⟩

end SignedTransaction

/-! A transfer to a text that is no address. Its signature is good all the same. -/

namespace Specimen

def strayCore : ActionCore where
  version := 1
  nonce := 1
  gasLimit := 10000
  gasPrice := "1"
  chainId := 1
  payload := some (.transfer ⟨"5", "io1bogus", []⟩)

def straySignature : Signature where
  r := Curve.generator.1
  s := 37069543545885106630746933548085213659563441214453317393415993571315462949849
  recovery := Signature.recoveryOfPoint false false
  r_lt := signature.r_lt
  s_lt := by decide

def stray : Action := strayCore.signed signer straySignature.bytes

theorem stray_read : Action.ofHex stray.toHex = .ok stray :=
  SignedTransaction.ofHex_signed signer straySignature (by decide +kernel)

theorem stray_verified : stray.verifySignature = .ok signer :=
  SignedTransaction.verifySignature_signed (by decide) (by decide +kernel)

/-- What reaches the node need not be what parsing accepts. -/
theorem stray_submitted_unparsed :
    ∃ transaction action,
      (∀ node, (Talk.runFrom node 0 (SignedTransaction.submit transaction)).2 = [.submit action]) ∧
      ∀ currency p, ParsedTransaction.ofRequest ⟨true, transaction⟩ currency ≠ .ok p := by
  refine ⟨stray.toHex, stray, fun node => ?_, fun currency p parsed => ?_⟩
  · obtain ⟨last, shape⟩ := SignedTransaction.submit_verified stray_read stray_verified
    rw [shape]
    rfl
  · have signed :=
      ParsedTransaction.readSigned_eq_ok.mpr ⟨stray, signer, stray_read, stray_verified, rfl, rfl⟩
    rw [ParsedTransaction.ofRequest_signed signed] at parsed
    obtain ⟨⟨t, told, ⟨recipient, named⟩, -⟩, -⟩ :=
      (ParsedTransaction.ofCore_succeeds _ currency).mp ⟨p, parsed⟩
    obtain rfl := Payload.transfer.inj (Option.some.inj told)
    have refused : (Address.ofText "io1bogus").toOption = none := by decide
    rw [named] at refused
    cases refused

end Specimen

end LedgerGateway
