import LedgerGateway.Construction.Reading
import LedgerGateway.Construction.Signing
import LedgerGateway.Proofs.Address.Text
import LedgerGateway.Proofs.Decimal
import LedgerGateway.Proofs.Envelope

/-!
# Reading transactions back

A transaction is read in two steps. The first finds the core and the sender, and only there does it
matter whether the transaction was signed; the second tells what the core does
(`ParsedTransaction.ofCore`). The second step knows neither keys nor signatures, and from the core
of a transfer it recovers the transfer.
-/

namespace LedgerGateway

open Outcome

theorem readAddress_text (a : Address) : readAddress a.text = .ok a :=
  readAddress_eq_ok.mpr (Address.ofText_text a)

theorem readAmount_natText (n : Nat) : readAmount (Decimal.natText n) = .ok n := by
  rw [readAmount_eq_ok, Decimal.natText, String.toList_ofList]
  exact Decimal.nat?_digits n

/-- The two operations of a transfer make the same transfer. -/
theorem TransferPair.ofOperations_operations (pair : TransferPair) (currency : Currency) :
    ofOperations currency (pair.operations currency) = .ok pair := by
  have credit : ¬ (pair.amount : Int) < 0 := by omega
  simp only [operations, ofOperations, requireTransfer, Amount.requireCurrency, if_true,
    bind, Except.bind, pure, Except.pure, ne_eq, not_true_eq_false, if_false, if_neg credit,
    Address.ofText_text, Except.mapError, Int.toNat_natCast]

namespace ParsedTransaction

variable {transaction : String} {core : ActionCore} {sender : Address}

/-- What a core and its sender tell. -/
def ofCore (signers : List String) (core : ActionCore) (sender : Address) (currency : Currency) :
    Except ConstructionError ParsedTransaction := do
  let pair ← readPair core sender
  let gasPrice ← readGasPrice core.gasPrice
  return ⟨pair.operations currency, signers, ⟨core.nonce, core.gasLimit, gasPrice⟩⟩

theorem ofRequest_signed (read : readSigned transaction = .ok (core, sender))
    (currency : Currency) :
    ofRequest ⟨true, transaction⟩ currency = ofCore [sender.text] core sender currency := by
  simp only [ofRequest, if_true, read, bind, Except.bind]
  rfl

theorem ofRequest_unsigned (read : readUnsigned transaction = .ok (core, sender))
    (currency : Currency) :
    ofRequest ⟨false, transaction⟩ currency = ofCore [] core sender currency := by
  simp only [ofRequest, Bool.false_eq_true, if_false, read, bind, Except.bind]
  rfl

theorem readSigned_eq_ok : readSigned transaction = .ok (core, sender) ↔
    ∃ action key, Action.ofHex transaction = .ok action ∧ action.verifySignature = .ok key ∧
      action.core = some core ∧ Address.ofKey key = sender := by
  simp only [readSigned, bind_eq_ok, mapError_eq_ok, Action.requireCore_eq_ok, pure_eq_ok,
    Prod.mk.injEq]
  constructor
  · rintro ⟨action, read, key, verified, _, carried, rfl, own⟩
    exact ⟨action, key, read, verified, carried, own⟩
  · rintro ⟨action, key, read, verified, carried, own⟩
    exact ⟨action, read, key, verified, core, carried, rfl, own⟩

theorem readUnsigned_eq_ok {unsigned : UnsignedAction}
    (read : UnsignedAction.ofHex transaction = .ok unsigned)
    (inside : unsigned.decodeCore = .ok core) (named : unsigned.senderAddress = .ok sender) :
    readUnsigned transaction = .ok (core, sender) := by
  simp only [readUnsigned, read, inside, named, Except.mapError, bind, Except.bind]
  rfl

theorem of_readUnsigned_eq_ok (read : readUnsigned transaction = .ok (core, sender)) :
    ∃ unsigned, UnsignedAction.ofHex transaction = .ok unsigned ∧ unsigned.decodeCore = .ok core ∧
      unsigned.senderAddress = .ok sender := by
  simp only [readUnsigned, bind_eq_ok, mapError_eq_ok, pure_eq_ok, Prod.mk.injEq] at read
  obtain ⟨unsigned, octets, _, inside, _, named, rfl, rfl⟩ := read
  exact ⟨unsigned, octets, inside, named⟩

theorem readGasPrice_eq_ok {s : String} {price : UInt64} :
    readGasPrice s = .ok price ↔ Decimal.word? s.toList = some price := by
  unfold readGasPrice
  cases Decimal.word? s.toList <;> simp

/-- The core and the sender of a transaction, signed or not. -/
def readCore (req : ParseRequest) : Except ConstructionError (ActionCore × Address) :=
  if req.signed then readSigned req.transaction else readUnsigned req.transaction

theorem ofRequest_eq_ok {req : ParseRequest} {currency : Currency} {p : ParsedTransaction} :
    ofRequest req currency = .ok p ↔ ∃ core sender, readCore req = .ok (core, sender) ∧
      ofCore (if req.signed then [sender.text] else []) core sender currency = .ok p := by
  have steps : ofRequest req currency = readCore req >>= fun read =>
      ofCore (if req.signed then [read.2.text] else []) read.1 read.2 currency := by
    obtain ⟨signed, transaction⟩ := req
    cases signed <;> rfl
  rw [steps, bind_eq_ok, Prod.exists]

theorem ofCore_eq_ok {signers : List String} {currency : Currency} {p : ParsedTransaction} :
    ofCore signers core sender currency = .ok p ↔
      ∃ pair, readPair core sender = .ok pair ∧
        ∃ price, Decimal.word? core.gasPrice.toList = some price ∧
          ⟨pair.operations currency, signers, ⟨core.nonce, core.gasLimit, price⟩⟩ = p := by
  simp only [ofCore, bind_eq_ok, pure_eq_ok, readGasPrice_eq_ok]

theorem readPair_eq_ok {pair : TransferPair} : readPair core sender = .ok pair ↔
    ∃ t, core.payload = some (.transfer t) ∧ Address.ofText t.recipient = .ok pair.recipient ∧
      Decimal.nat? t.amount.toList = some pair.amount ∧ pair.sender = sender := by
  simp only [readPair, bind_eq_ok, mapError_eq_ok, ActionCore.requirePayload_eq_ok]
  constructor
  · rintro ⟨payload, hpayload, h⟩
    cases payload with
    | transfer t =>
      simp only [bind_eq_ok, mapError_eq_ok, readAddress_eq_ok, readAmount_eq_ok, pure_eq_ok] at h
      obtain ⟨recipient, hrecipient, amount, hamount, rfl⟩ := h
      exact ⟨t, hpayload, hrecipient, hamount, rfl⟩
    | _ => exact absurd h throw_ne_ok
  · rintro ⟨t, hpayload, hrecipient, hamount, rfl⟩
    refine ⟨.transfer t, hpayload, ?_⟩
    simp only [bind_eq_ok, mapError_eq_ok, readAddress_eq_ok, readAmount_eq_ok, pure_eq_ok]
    exact ⟨pair.recipient, hrecipient, pair.amount, hamount, rfl⟩

/-- A fault of the core is no fault of a key or a signature. -/
def FaultOfCore (e : ConstructionError) : Prop :=
  (∀ fault, e ≠ .invalidSignature fault) ∧ ∀ fault, e ≠ .invalidPublicKey fault

theorem readPair_error {e : ConstructionError} (h : readPair core sender = .error e) :
    FaultOfCore e := by
  have parse {α : Type} {r : Except CodecError α} {e : ConstructionError}
      (h : r.mapError .parse = .error e) : FaultOfCore e := by
    obtain ⟨_, -, rfl⟩ := mapError_eq_error.mp h
    exact ⟨fun _ => nofun, fun _ => nofun⟩
  rw [readPair, bind_eq_error] at h
  obtain h | ⟨payload, -, h⟩ := h
  · exact parse h
  · cases payload with
    | transfer t =>
      simp only [bind_eq_error] at h
      obtain h | ⟨_, -, h | ⟨_, -, h⟩⟩ := h
      · exact parse h
      · exact parse h
      · cases h
    | _ =>
      cases h
      exact ⟨fun _ => nofun, fun _ => nofun⟩

theorem readGasPrice_error {s : String} {e : ConstructionError} (h : readGasPrice s = .error e) :
    FaultOfCore e := by
  unfold readGasPrice at h
  split at h
  · cases h
  · cases h
    exact ⟨fun _ => nofun, fun _ => nofun⟩

/-- The signers do not matter to what a core tells. -/
theorem ofCore_cases (core : ActionCore) (sender : Address) (currency : Currency) :
    (∃ operations parameters, ∀ signers,
        ofCore signers core sender currency = .ok ⟨operations, signers, parameters⟩) ∨
      ∃ e, FaultOfCore e ∧ ∀ signers, ofCore signers core sender currency = .error e := by
  unfold ofCore
  cases hpair : readPair core sender with
  | error e => exact .inr ⟨e, readPair_error hpair, fun _ => rfl⟩
  | ok pair =>
    cases hprice : readGasPrice core.gasPrice with
    | error e => exact .inr ⟨e, readGasPrice_error hprice, fun _ => rfl⟩
    | ok price => exact .inl ⟨_, _, fun _ => rfl⟩

theorem readGasPrice_natText (price : UInt64) :
    readGasPrice (Decimal.natText price.toNat) = .ok price := by
  rw [readGasPrice, Decimal.natText, String.toList_ofList, Decimal.word?_digits]

theorem readPair_transfer (pair : TransferPair) (p : ActionParameters) (chainId : UInt32) :
    readPair (UnsignedTransaction.core pair p chainId) pair.sender = .ok pair := by
  have amount : Decimal.nat? (Decimal.natText pair.amount).toList = some pair.amount :=
    readAmount_eq_ok.mp (readAmount_natText pair.amount)
  exact readPair_eq_ok.mpr ⟨⟨Decimal.natText pair.amount, pair.recipient.text, []⟩, rfl,
    Address.ofText_text pair.recipient, amount, rfl⟩

/-- The core of a transfer tells the transfer and its parameters. -/
theorem ofCore_transfer (signers : List String) (pair : TransferPair) (p : ActionParameters)
    (chainId : UInt32) (currency : Currency) :
    ofCore signers (UnsignedTransaction.core pair p chainId) pair.sender currency =
      .ok ⟨pair.operations currency, signers, p⟩ := by
  have price : readGasPrice (UnsignedTransaction.core pair p chainId).gasPrice = .ok p.gasPrice :=
    readGasPrice_natText p.gasPrice
  simp only [ofCore, readPair_transfer, price, bind, Except.bind]
  rfl

end ParsedTransaction

end LedgerGateway
