import LedgerGateway.Construction.Format
import LedgerGateway.Proofs.Construction.Suggestion
import LedgerGateway.Proofs.Construction.Unsigned
import LedgerGateway.Proofs.Ledger.Format

/-!
# Options are accepted downstream

No state is kept between the stages of a construction, so each stage trusts what the client hands
back from the one before. What a request was turned into (`TransferOptions.ofRequest`) survives
that: it is read back from JSON as it was written, completing it fails for no fault of its own, and
the operations it came from make an unsigned transaction of the same transfer.
-/

namespace LedgerGateway

open Outcome

theorem Amount.requireCurrency_eq_ok {a : Amount} {currency : Currency} :
    a.requireCurrency currency = .ok () ↔ a.currency = currency := by
  unfold requireCurrency
  by_cases same : a.currency = currency <;> simp [same]

namespace TransferOptions

variable {req : PreprocessRequest} {currency : Currency} {o : TransferOptions}

/-- The transfer that the options are for. -/
def pair (o : TransferOptions) : TransferPair := ⟨o.sender, o.recipient, o.amount.value.toNat⟩

/-- What later stages rely on. -/
structure Checked (o : TransferOptions) (currency : Currency) : Prop where
  amount_currency : o.amount.currency = currency
  amount_nonneg : 0 ≤ o.amount.value
  maxFee : ∀ fee ∈ o.maxFee, fee.currency = currency ∧ 0 ≤ fee.value
  multiplier : ∀ m ∈ o.feeMultiplier, m.isFinite = true ∧ m.isPositive = true
  signers : o.signers = [o.sender]

/-- A limit that was read is the one that was given. -/
theorem readMaxFee_eq_ok {fees : List Amount} {limit : Option Amount}
    (h : readMaxFee currency fees = .ok limit) :
    fees = limit.toList ∧ ∀ fee ∈ limit, fee.currency = currency ∧ 0 ≤ fee.value := by
  unfold readMaxFee at h
  split at h
  · cases h
    exact ⟨rfl, nofun⟩
  · rename_i fee
    rw [bind_eq_ok] at h
    obtain ⟨⟨⟩, native, h⟩ := h
    by_cases negative : fee.value < 0
    · rw [if_pos negative] at h
      exact absurd h throw_ne_ok
    · rw [if_neg negative] at h
      cases h
      refine ⟨rfl, fun fee' same => ?_⟩
      obtain rfl := Option.some.inj same
      exact ⟨Amount.requireCurrency_eq_ok.mp native, Int.not_lt.mp negative⟩
  · cases h

theorem readMultiplier_eq_ok {given read : Option Binary64} (h : readMultiplier given = .ok read) :
    given = read ∧ ∀ m ∈ read, m.isMultiplier = true := by
  unfold readMultiplier at h
  split at h
  · rename_i m
    by_cases good : m.isMultiplier = true
    · rw [if_pos good] at h
      cases h
      refine ⟨rfl, fun m' same => ?_⟩
      obtain rfl := Option.some.inj same
      exact good
    · rw [if_neg good] at h
      cases h
  · cases h
    exact ⟨rfl, nofun⟩

/-- What a request was turned into says all that was read from it. -/
theorem ofRequest_eq_ok : ofRequest req currency = .ok o ↔
    TransferPair.ofOperations currency req.operations = .ok o.pair ∧
      o.amount.currency = currency ∧ 0 ≤ o.amount.value ∧
      readMaxFee currency req.maxFee = .ok o.maxFee ∧
      readMultiplier req.feeMultiplier = .ok o.feeMultiplier ∧
      readFixed (req.metadata.getD []) "gasLimit" = .ok o.gasLimit ∧
      readFixed (req.metadata.getD []) "gasPrice" = .ok o.gasPrice ∧
      readFixed (req.metadata.getD []) "nonce" = .ok o.nonce := by
  simp only [ofRequest, bind_eq_ok, pure_eq_ok]
  constructor
  · rintro ⟨pair, operations, maxFee, hmaxFee, multiplier, hmultiplier, gasLimit, hgasLimit,
      gasPrice, hgasPrice, nonce, hnonce, rfl⟩
    refine ⟨operations, rfl, Int.natCast_nonneg _, hmaxFee, hmultiplier, hgasLimit,
      hgasPrice, hnonce⟩
  · rintro ⟨operations, native, nonneg, hmaxFee, hmultiplier, hgasLimit, hgasPrice, hnonce⟩
    refine ⟨o.pair, operations, _, hmaxFee, _, hmultiplier, _, hgasLimit, _, hgasPrice,
      _, hnonce, ?_⟩
    have amount : (⟨o.pair.amount, currency⟩ : Amount) = o.amount := by
      rw [pair, Int.toNat_of_nonneg nonneg, ← native]
    rw [amount]
    rfl

theorem checked (h : ofRequest req currency = .ok o) : o.Checked currency := by
  obtain ⟨-, native, nonneg, maxFee, multiplier, -⟩ := ofRequest_eq_ok.mp h
  obtain ⟨-, limits⟩ := readMaxFee_eq_ok maxFee
  obtain ⟨-, multipliers⟩ := readMultiplier_eq_ok multiplier
  exact {
    amount_currency := native
    amount_nonneg := nonneg
    maxFee := limits
    multiplier := fun m hm => Bool.and_eq_true_iff.mp (multipliers m hm)
    signers := rfl }

/-- A multiplier that is not finite has no JSON value, so it would be lost. -/
theorem json_back {o : TransferOptions} (finite : ∀ m ∈ o.feeMultiplier, m.isFinite = true) :
    ofJson o.toJson = .ok o := by
  apply Json.Record.read_present
  · decide
  · rfl
  · rintro r ⟨sender, recipient, amount, gasLimit, gasPrice, nonce, maxFee, multiplier⟩
    rw [Json.map_ofBinary finite] at multiplier
    have word : ∀ n, Json.ofWord n ≠ .null := fun _ => Json.noConfusion
    rw [Json.Record.required_back Json.address_back sender,
      Json.Record.required_back Json.address_back recipient,
      Json.Record.required_back Amount.json_back amount,
      Json.Record.optional_back Json.word_back word gasLimit,
      Json.Record.optional_back Json.word_back word gasPrice,
      Json.Record.optional_back Json.word_back word nonce,
      Json.Record.optional_back Amount.json_back (fun _ => Json.noConfusion) maxFee,
      Json.Record.optional_back Json.binary_back (fun _ => Json.noConfusion) multiplier]
    rfl

/-- The operations that were checked make an unsigned transaction of the same transfer, whatever
its parameters. -/
theorem unsigned (h : ofRequest req currency = .ok o) {ctx : ConstructionContext}
    (same : ctx.currency = currency) (parameters : ActionParameters) :
    UnsignedTransaction.ofRequest ⟨req.operations, parameters, []⟩ ctx =
      .ok (.ofPair o.pair parameters ctx.chainId) := by
  obtain ⟨operations, -⟩ := ofRequest_eq_ok.mp h
  subst same
  exact UnsignedTransaction.ofRequest_eq_ok.mpr ⟨o.pair, operations, rfl, rfl⟩

end TransferOptions

/-! The transfer again, with a fixed limit of gas, a limit for the fee, and a price of one and a
half times the usual. -/

namespace Specimen

def wish : PreprocessRequest where
  operations := order.operations
  metadata := some [("nonce", .null), ("gasLimit", .integer 21000)]
  maxFee := [⟨100000, .native⟩]
  feeMultiplier := some ⟨0x3ff8000000000000⟩

def wishes : TransferOptions where
  sender := transfer.sender
  recipient := transfer.recipient
  amount := ⟨1000, .native⟩
  gasLimit := some 21000
  maxFee := some ⟨100000, .native⟩
  feeMultiplier := some ⟨0x3ff8000000000000⟩

end Specimen

end LedgerGateway
