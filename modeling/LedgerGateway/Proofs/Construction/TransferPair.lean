import LedgerGateway.Proofs.Construction.Options
import LedgerGateway.Proofs.Json.Field
import LedgerGateway.Proofs.Ledger.Amount

/-!
# The two operations of a transfer

Whether two operations make a transfer is decided on numbers: what leaves the sender is what reaches
the recipient. Since numbers have one text, it could as well be decided on texts, by putting a minus
sign in front of the amount that is credited. All pairs of operations that make the same transfer
have one form, the one in which the transfer is written. Both are said by
`TransferPair.check_retracts`.
-/

namespace LedgerGateway

open Outcome
open Decimal (Numeral)

/-- The text of the amount in the JSON form of an operation. -/
def Operation.amountText? (j : Json) : Option String := do
  let amount ← j.field? fields "amount"
  (Json.asText (← amount.field? ["value", "currency"] "value")).toOption

/-- An amount was read from the text of its value. -/
theorem Amount.value_of_ofJson {j : Json} {a : Amount} (h : ofJson j = .ok a) :
    ∃ s, j.field? ["value", "currency"] "value" = some (.text s) ∧ readValue s = .ok a.value := by
  obtain ⟨r, built, stands⟩ := Json.Record.of_read h
  obtain ⟨_, currency, hvalue, -, rfl⟩ := Json.Reading.seq_eq_ok.mp built
  obtain ⟨v, read, rfl⟩ := Json.Reading.map_eq_ok.mp hvalue
  obtain ⟨value, there, read⟩ := Json.Record.required_eq_ok.mp read
  obtain ⟨s, rfl, text⟩ := valueOfJson_eq_ok.mp read
  exact ⟨s, (stands "value" (by decide)).symm.trans there, text⟩

/-- The amount of an operation was read from its text. -/
theorem Operation.amountText_of_read {filler : Json.Filler} {j : Json} {o : Operation}
    (h : read filler j = .ok o) :
    ∃ s, amountText? j = some s ∧ Amount.readValue s = .ok o.amount.value := by
  obtain ⟨r, built, stands⟩ := Json.Record.of_read h
  obtain ⟨_, metadata, upToAmount, -, rfl⟩ := Json.Reading.seq_eq_ok.mp built
  obtain ⟨_, amount, upToAccount, hamount, rfl⟩ := Json.Reading.seq_eq_ok.mp upToAmount
  obtain ⟨_, account, upToStatus, -, rfl⟩ := Json.Reading.seq_eq_ok.mp upToAccount
  obtain ⟨_, status, upToType, -, rfl⟩ := Json.Reading.seq_eq_ok.mp upToStatus
  obtain ⟨_, type, upToRelated, -, rfl⟩ := Json.Reading.seq_eq_ok.mp upToType
  obtain ⟨_, related, index, -, rfl⟩ := Json.Reading.seq_eq_ok.mp upToRelated
  obtain ⟨index, -, rfl⟩ := Json.Reading.map_eq_ok.mp index
  obtain ⟨value, there, read⟩ := Json.Record.required_eq_ok.mp hamount
  obtain ⟨s, inside, text⟩ := Amount.value_of_ofJson read
  have field : j.field? fields "amount" = some value :=
    (stands "amount" (by decide)).symm.trans there
  refine ⟨s, ?_, text⟩
  rw [amountText?, field]
  simp only [Option.bind_eq_bind, Option.bind_some, inside]
  rfl

namespace Amount

/-- Two amounts cancel out, and the second one is positive, exactly when the first text is the
second one behind a minus sign. -/
theorem cancel_iff {d c : String} {v w : Int} (hd : readValue d = .ok v) (hc : readValue c = .ok w)
    (nonzero : w ≠ 0) : v = -w ∧ 0 ≤ w ↔ d = "-" ++ c := by
  have signed : ("-" ++ c).toList = '-' :: c.toList := by
    rw [String.toList_append]
    rfl
  have minus {cs : List Char} : ¬ Numeral ('-' :: cs) :=
    fun h => absurd (h.digits '-' (by simp)) (by decide)
  rw [← String.toList_inj, signed]
  constructor
  · rintro ⟨rfl, nonneg⟩
    obtain ⟨numeral, rfl⟩ | ⟨cs, -, -, rfl⟩ := readValue_eq_ok.mp hc
    · obtain ⟨-, negative⟩ | ⟨cs, text, numeral', same⟩ := readValue_eq_ok.mp hd
      · omega
      · have values : Decimal.value cs = Decimal.value c.toList := by omega
        rw [text, ← Decimal.digits_value numeral', values, Decimal.digits_value numeral]
    · omega
  · intro text
    obtain ⟨numeral, -⟩ | ⟨cs, text', numeral, rfl⟩ := readValue_eq_ok.mp hd
    · exact absurd (text ▸ numeral) minus
    · obtain rfl : c.toList = cs := (List.cons.inj (text.symm.trans text')).2
      obtain ⟨-, rfl⟩ | ⟨cs, text', -⟩ := readValue_eq_ok.mp hc
      · exact ⟨rfl, Int.natCast_nonneg _⟩
      · exact absurd (text' ▸ numeral) minus

end Amount

namespace TransferPair

variable {currency : Currency} {debit credit o : Operation} {t : TransferPair}

theorem requireTransfer_eq_ok {u : Unit} :
    requireTransfer currency o = .ok u ↔
      o.type = .nativeTransfer ∧ o.amount.currency = currency := by
  unfold requireTransfer
  by_cases native : o.type = .nativeTransfer
  · rw [if_pos native, Amount.requireCurrency_eq_ok]
    simp [native]
  · simp [native]

/-- What an operation needs to be one side of a transfer. -/
structure Side (currency : Currency) (o : Operation) : Prop where
  type : o.type = .nativeTransfer
  currency : o.amount.currency = currency
  account : ∃ a, Address.ofText o.account = .ok a

theorem ofOperations_pair : ofOperations currency [debit, credit] = .ok t ↔
    (debit.type = .nativeTransfer ∧ debit.amount.currency = currency) ∧
      (credit.type = .nativeTransfer ∧ credit.amount.currency = currency) ∧
      debit.amount.value = -credit.amount.value ∧ 0 ≤ credit.amount.value ∧
      Address.ofText debit.account = .ok t.sender ∧
      Address.ofText credit.account = .ok t.recipient ∧
      credit.amount.value.toNat = t.amount := by
  simp only [ofOperations, bind_eq_ok, requireTransfer_eq_ok, exists_and_left, exists_const]
  refine and_congr_right fun _ => and_congr_right fun _ => ?_
  by_cases balanced : debit.amount.value = -credit.amount.value
  · by_cases negative : credit.amount.value < 0
    · rw [if_neg (not_not.mpr balanced), if_pos negative]
      exact iff_of_false throw_ne_ok fun h => absurd h.2.1 (by omega)
    · rw [if_neg (not_not.mpr balanced), if_neg negative]
      simp only [bind_eq_ok, mapError_eq_ok, pure_eq_ok]
      constructor
      · rintro ⟨sender, hsender, recipient, hrecipient, rfl⟩
        exact ⟨balanced, by omega, hsender, hrecipient, rfl⟩
      · rintro ⟨-, -, hsender, hrecipient, amount⟩
        exact ⟨t.sender, hsender, t.recipient, hrecipient, by rw [amount]⟩
  · rw [if_pos balanced]
    exact iff_of_false throw_ne_ok fun h => balanced h.1

/-- Nothing but two operations makes a transfer. -/
theorem pair_of_ofOperations {operations : List Operation}
    (h : ofOperations currency operations = .ok t) :
    ∃ debit credit, operations = [debit, credit] := by
  unfold ofOperations at h
  split at h
  · exact ⟨_, _, rfl⟩
  · cases h

/-- Two operations that were read from JSON and are sides of a transfer make one exactly when the
text of the amount that is debited is the other one behind a minus sign, provided that the credit is
not zero. Operations that make a transfer have the amounts of the ones that are written for it, and
the written ones name the same accounts in their native form. What is written makes the transfer
that it is written for. -/
theorem check_retracts (currency : Currency) :
    (∀ filler (d c : Json) (debit credit : Operation),
      Operation.read filler d = .ok debit → Operation.read filler c = .ok credit →
      Side currency debit → Side currency credit → credit.amount.value ≠ 0 →
      ∃ debited credited, Operation.amountText? d = some debited ∧
        Operation.amountText? c = some credited ∧
        ((∃ t, ofOperations currency [debit, credit] = .ok t) ↔ debited = "-" ++ credited)) ∧
      (∀ operations t, ofOperations currency operations = .ok t →
        List.Forall₂ (fun o written : Operation => written.amount = o.amount ∧
          ∃ a, Address.ofText o.account = .ok a ∧ written.account = a.text)
          operations (t.operations currency) ∧
        ofOperations currency (t.operations currency) = .ok t) ∧
      ∀ t : TransferPair, ofOperations currency (t.operations currency) = .ok t := by
  refine ⟨?_, ?_, fun t => ofOperations_operations t currency⟩
  · intro filler d c debit credit readDebit readCredit side side' nonzero
    obtain ⟨debited, hd, hdebited⟩ := Operation.amountText_of_read readDebit
    obtain ⟨credited, hc, hcredited⟩ := Operation.amountText_of_read readCredit
    refine ⟨debited, credited, hd, hc, ?_⟩
    rw [← Amount.cancel_iff hdebited hcredited nonzero]
    constructor
    · rintro ⟨t, made⟩
      obtain ⟨-, -, balanced, nonneg, -⟩ := ofOperations_pair.mp made
      exact ⟨balanced, nonneg⟩
    · rintro ⟨balanced, nonneg⟩
      obtain ⟨sender, hsender⟩ := side.account
      obtain ⟨recipient, hrecipient⟩ := side'.account
      exact ⟨⟨sender, recipient, _⟩, ofOperations_pair.mpr
        ⟨⟨side.type, side.currency⟩, ⟨side'.type, side'.currency⟩, balanced, nonneg,
          hsender, hrecipient, rfl⟩⟩
  · intro operations t made
    obtain ⟨debit, credit, rfl⟩ := pair_of_ofOperations made
    obtain ⟨⟨-, native⟩, ⟨-, native'⟩, balanced, nonneg, hsender, hrecipient, amount⟩ :=
      ofOperations_pair.mp made
    have credited : credit.amount = ⟨t.amount, currency⟩ := by
      rw [← amount, Int.toNat_of_nonneg nonneg, ← native']
    have debited : debit.amount = ⟨-t.amount, currency⟩ := by
      rw [← amount, Int.toNat_of_nonneg nonneg, ← balanced, ← native]
    exact ⟨.cons ⟨debited.symm, _, hsender, rfl⟩ (.cons ⟨credited.symm, _, hrecipient, rfl⟩ .nil),
      ofOperations_operations t currency⟩

end TransferPair

/-! The order again, whose debit names the sender in base 16 behind a blank. -/

namespace Specimen

theorem order_checked : ∃ debit credit debited credited, order.operations = [debit, credit] ∧
    Operation.amountText? debit.toJson = some debited ∧
    Operation.amountText? credit.toJson = some credited ∧
    debited = "-" ++ credited ∧
    TransferPair.ofOperations .native (transfer.operations .native) = .ok transfer := by
  obtain ⟨textual, form, -⟩ := TransferPair.check_retracts .native
  obtain ⟨debit, credit, two⟩ := TransferPair.pair_of_ofOperations order_pair
  have made := order_pair
  rw [two] at made
  obtain ⟨⟨type, native⟩, ⟨type', native'⟩, -, -, hsender, hrecipient, amount⟩ :=
    TransferPair.ofOperations_pair.mp made
  have positive : credit.amount.value ≠ 0 := by
    intro zero
    rw [zero] at amount
    exact absurd amount (by decide)
  obtain ⟨debited, credited, hd, hc, same⟩ :=
    textual .null _ _ debit credit (Operation.json_back .null debit)
      (Operation.json_back .null credit) ⟨type, native, _, hsender⟩
      ⟨type', native', _, hrecipient⟩ positive
  exact ⟨debit, credit, debited, credited, two, hd, hc, same.mp ⟨transfer, made⟩,
    (form _ _ order_pair).2⟩

end Specimen

end LedgerGateway
