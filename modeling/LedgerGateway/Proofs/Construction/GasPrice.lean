import LedgerGateway.Proofs.Construction.Signed
import LedgerGateway.Proofs.Ledger.ActionReading

/-!
# What a gas price is

The price of gas is a text. The ledger takes digits of a number of any size; construction takes a
number of 64 bits, and in front of it a plus sign. On a text without a sign the two agree, so a
transaction that was parsed is charged at the price that was reported, and it keeps no block from
being shown. On a text with a sign they do not: such a transaction is parsed, and the block that
contains it is refused.
-/

namespace LedgerGateway

open Outcome

namespace Decimal

/-- A plus sign stands before the number. -/
def Signed (s : String) : Prop := s.toList.head? = some '+'

instance (s : String) : Decidable (Signed s) := inferInstanceAs (Decidable (_ = _))

theorem nat?_of_signed {s : String} (h : Signed s) : nat? s.toList = none := by
  obtain ⟨rest, written⟩ := List.head?_eq_some_iff.mp h
  have sign : ¬ (s.toList ≠ [] ∧ s.toList.all Char.isDigit = true) := by
    rintro ⟨-, digits⟩
    rw [written] at digits
    exact absurd (List.all_eq_true.mp digits '+' List.mem_cons_self) (by decide)
  rw [nat?, if_neg sign]

/-- A word that has no sign is read as the same number of any size. -/
theorem nat?_of_word? {s : String} {n : UInt64} (unsigned : ¬ Signed s)
    (h : word? s.toList = some n) : nat? s.toList = some n.toNat := by
  unfold word? at h
  split at h
  · rename_i rest written
    exact absurd (congrArg List.head? written) unsigned
  · cases read : nat? s.toList with
    | none => simp only [read, reduceCtorEq] at h
    | some m =>
      simp only [read] at h
      split at h
      · rename_i small
        cases h
        rw [UInt64.toNat_ofNat', Nat.mod_eq_of_lt small]
      · cases h

end Decimal

/-! ## Blocks that are refused for a price -/

section
variable {action : Action} {core : ActionCore} {sender : Address} {receipt : Receipt}
  {height : UInt64} {ctx : LedgerContext} {hash : ActionHash} {text : String}

theorem Movement.Counterparty.address_blames_no_price {other : Counterparty} {pools : Pools} :
    other.address receipt pools ≠ .error (.invalidGasPrice hash text) := by
  unfold address
  split
  · simp [mapError_eq_error]
  · split
    · split <;> simp
    · simp [mapError_eq_error]
  · simp
  · simp

theorem Movement.ofAction_blames_no_price {pools : Pools} :
    ofAction action receipt pools ≠ .error (.invalidGasPrice hash text) := by
  intro h
  rw [ofAction, bind_eq_error] at h
  obtain h | ⟨core, -, h⟩ := h
  · simp [mapError_eq_error] at h
  · split at h
    · cases h
    · rename_i other _
      rw [bind_eq_error] at h
      obtain h | ⟨amount, -, h⟩ := h
      · simp [mapError_eq_error] at h
      · split at h
        · cases h
        · rw [bind_eq_error] at h
          obtain h | ⟨account, -, h⟩ := h
          · exact Counterparty.address_blames_no_price h
          · cases h

/-- A price is blamed only where the fee has to be computed from it. -/
theorem Reconciled.ofAction_blames {logs : Option (List LogEntry)}
    (h : ofAction action sender receipt height logs ctx = .error (.invalidGasPrice hash text)) :
    ∃ core, action.core = some core ∧
      Fee.ofCore core sender receipt height ctx = .error (.invalidGasPrice hash text) := by
  rw [ofAction, bind_eq_error] at h
  obtain h | ⟨core, hcore, h⟩ := h
  · simp [mapError_eq_error] at h
  · refine ⟨core, Action.requireCore_eq_ok.mp (mapError_eq_ok.mp hcore), ?_⟩
    cases logs with
    | none =>
      simp only [withoutLogs] at h
      split at h
      · cases h
      · rw [bind_eq_error] at h
        obtain h | ⟨fee, -, h⟩ := h
        · exact h
        · split at h
          · rw [bind_eq_error] at h
            obtain h | ⟨movement, -, h⟩ := h
            · exact absurd h Movement.ofAction_blames_no_price
            · cases h
          · cases h
    | some entries =>
      simp only [withLogs] at h
      split at h
      · rw [bind_eq_error] at h
        obtain h | ⟨fee, -, h⟩ := h
        · exact h
        · cases h
      · cases h

end

namespace RawBlock

variable {b : RawBlock} {logs : TransferLogs} {ctx : LedgerContext} {hash : ActionHash}
  {text : String}

theorem decodeAction_blames {action : Action} {entries : Option (List LogEntry)}
    {named : ActionHash}
    (h : b.decodeAction named action entries ctx = .error (.invalidGasPrice hash text)) :
    ∃ core, action.core = some core ∧ core.gasPrice = text ∧ Decimal.nat? text.toList = none := by
  unfold decodeAction at h
  split at h
  · cases h
  · rename_i receipt _
    rw [bind_eq_error] at h
    obtain h | ⟨sender, -, h⟩ := h
    · simp [mapError_eq_error] at h
    · rw [bind_eq_error] at h
      obtain h | ⟨reconciled, -, h⟩ := h
      · obtain ⟨core, hcore, h⟩ := Reconciled.ofAction_blames h
        obtain ⟨unread, same⟩ := Fee.ofCore_eq_error.mp h
        cases same
        exact ⟨core, hcore, rfl, unread⟩
      · cases h

/-- A block that is refused for a price contains an action whose price is that text, and the text
is no number. -/
theorem decode_blames (h : b.decode logs ctx = .error (.invalidGasPrice hash text)) :
    (∃ octets ∈ b.actions, ∃ action core,
      Action.ofBytes octets = .ok action ∧ action.core = some core ∧ core.gasPrice = text) ∧
    Decimal.nat? text.toList = none := by
  rw [decode, bind_eq_error] at h
  obtain h | ⟨actions, hactions, h⟩ := h
  · obtain ⟨octets, -, h⟩ := mapM_eq_error h
    rw [bind_eq_error] at h
    obtain h | ⟨action, -, h⟩ := h
    · simp [mapError_eq_error] at h
    · cases h
  · rw [bind_eq_error] at h
    obtain h | ⟨groups, -, h⟩ := h
    · simp [mapError_eq_error] at h
    · split at h
      · cases h
      · rw [bind_eq_error] at h
        obtain h | ⟨found, -, h⟩ := h
        · obtain ⟨⟨named, action⟩, mem, h⟩ := mapM_eq_error h
          obtain ⟨core, hcore, price, unread⟩ := decodeAction_blames h
          obtain ⟨octets, inside, read⟩ := mem_of_mapM_eq_ok hactions mem
          simp only [bind_eq_ok, mapError_eq_ok, pure_eq_ok, Prod.mk.injEq] at read
          obtain ⟨_, read, rfl, rfl⟩ := read
          exact ⟨⟨octets, inside, _, core, read, hcore, price⟩, unread⟩
        · cases h

end RawBlock

namespace ParsedTransaction

variable {req : ParseRequest} {currency : Currency} {p : ParsedTransaction}

/-- The ledger charges a parsed transaction at the price that parsing reported, for any gas that
it burned, and no block is refused for this price, unless a plus sign stands before it; then no
ledger reads it. -/
theorem price_charged (h : ofRequest req currency = .ok p) :
    ∃ core sender, readCore req = .ok (core, sender) ∧
      (Decimal.Signed core.gasPrice ∧
        (∀ payer receipt height ctx, Fee.ofCore core payer receipt height ctx =
          .error (.invalidGasPrice receipt.actionHash core.gasPrice)) ∨
      ¬ Decimal.Signed core.gasPrice ∧
        (∀ payer receipt height ctx, ∃ fee, Fee.ofCore core payer receipt height ctx = .ok fee ∧
          fee.map (fun f => (f.debit, f.credit, f.creditAmount)) =
            if p.parameters.gasPrice.toNat * receipt.gasConsumed.toNat = 0 then none
            else some (payer, ctx.pools.rewarding,
              p.parameters.gasPrice.toNat * receipt.gasConsumed.toNat)) ∧
        ∀ b logs ctx hash,
          RawBlock.decode b logs ctx ≠ .error (.invalidGasPrice hash core.gasPrice)) := by
  obtain ⟨core, sender, read, parsed⟩ := ofRequest_eq_ok.mp h
  obtain ⟨pair, -, price, told, same⟩ := ofCore_eq_ok.mp parsed
  have reported : p.parameters.gasPrice = price := by rw [← same]
  refine ⟨core, sender, read, ?_⟩
  by_cases signed : Decimal.Signed core.gasPrice
  · exact .inl ⟨signed, fun payer receipt height ctx =>
      Fee.ofCore_eq_error.mpr ⟨Decimal.nat?_of_signed signed, rfl⟩⟩
  · have known := Decimal.nat?_of_word? signed told
    refine .inr ⟨signed, fun payer receipt height ctx => ?_, fun b logs ctx hash refused => ?_⟩
    · have charge : Fee.charge core receipt =
          p.parameters.gasPrice.toNat * receipt.gasConsumed.toNat := by
        rw [Fee.charge, known, Option.getD_some, reported]
      refine ⟨_, Fee.ofCore_eq_ok.mpr ⟨⟨_, known⟩, rfl⟩, ?_⟩
      rw [charge]
      split
      · rfl
      · split <;> rfl
    · obtain ⟨-, unread⟩ := RawBlock.decode_blames refused
      cases unread.symm.trans known

end ParsedTransaction

/-! The transfer again, at its price and at the same price with a sign. -/

namespace Specimen

def pricedCore : ActionCore := { core with gasPrice := "+3" }

theorem core_charged :
    ∃ fee, Fee.ofCore core signerTransfer.sender (receipt payment 0) 0 {} = .ok fee ∧
      fee.map (·.creditAmount) = some 300 := by
  have read := ParsedTransaction.readUnsigned_ofCore core_length signerTransfer.sender
  have parsed := (ParsedTransaction.ofRequest_unsigned read .native).trans
    (ParsedTransaction.ofCore_transfer [] signerTransfer order.parameters 1 .native)
  obtain ⟨core', sender, read', told⟩ := ParsedTransaction.price_charged parsed
  cases read.symm.trans read'
  obtain ⟨signed, -⟩ | ⟨-, charged, -⟩ := told
  · exact absurd signed (by decide)
  · obtain ⟨fee, known, credited⟩ := charged signerTransfer.sender (receipt payment 0) 0 {}
    refine ⟨fee, known, ?_⟩
    have amount := congrArg (Option.map fun f => f.2.2) credited
    rw [Option.map_map] at amount
    exact amount

theorem pricedCore_not_charged :
    (∃ p, ParsedTransaction.ofRequest
        ⟨false, (UnsignedAction.ofCore pricedCore signerTransfer.sender).toHex⟩ .native = .ok p ∧
      p.parameters.gasPrice = 3) ∧
    ∀ payer receipt height ctx, Fee.ofCore pricedCore payer receipt height ctx =
      .error (.invalidGasPrice receipt.actionHash "+3") := by
  have sized : pricedCore.encode.length < UInt64.size := by decide +kernel
  have read := ParsedTransaction.readUnsigned_ofCore sized signerTransfer.sender
  have pair : ParsedTransaction.readPair pricedCore signerTransfer.sender = .ok signerTransfer :=
    ParsedTransaction.readPair_transfer signerTransfer order.parameters 1
  constructor
  · exact ⟨_, (ParsedTransaction.ofRequest_unsigned read .native).trans
      (ParsedTransaction.ofCore_eq_ok.mpr ⟨_, pair, 3, by decide, rfl⟩), rfl⟩
  · exact fun payer receipt height ctx => Fee.ofCore_eq_error.mpr ⟨by decide, rfl⟩

end Specimen

end LedgerGateway
