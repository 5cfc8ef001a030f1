import LedgerGateway.Proofs.Ledger.Format

/-!
# Amounts have one text

The text of an amount is a numeral after at most one minus sign, so nothing is left to choose in
writing a number down: what is read is what would be written. The one exception is zero. Its numeral
may have a sign too, and `-0` is read though it is never written.
-/

namespace LedgerGateway

open Outcome
open Decimal (Numeral)

namespace Amount

/-- Once the sign is split off, a numeral must be left. -/
theorem readValue_of_splitSign {s : String} {negative : Bool} {cs : List Char}
    (split : splitSign s.toList = (negative, cs)) (v : Int) : readValue s = .ok v ↔
      Numeral cs ∧ v = if negative then -(Decimal.value cs : Int) else Decimal.value cs := by
  unfold readValue
  rw [split, Decimal.numeral_iff]
  simp only
  cases read : Decimal.nat? cs with
  | none => simp
  | some n =>
    obtain ⟨-, rfl⟩ : _ ∧ Decimal.value cs = n := by simpa [Decimal.nat?] using read
    by_cases spare : 1 < cs.length ∧ cs.head? = some '0'
    · simp [spare]
    · simp [spare, eq_comm]

theorem splitSign_minus (cs : List Char) : splitSign ('-' :: cs) = (true, cs) := rfl

theorem splitSign_of_head {cs : List Char} (h : cs.head? ≠ some '-') :
    splitSign cs = (false, cs) := by
  unfold splitSign
  split
  · exact absurd rfl h
  · rfl

/-- Accepted texts are numerals after at most one minus sign. -/
theorem readValue_eq_ok {s : String} {v : Int} : readValue s = .ok v ↔
    (Numeral s.toList ∧ v = Decimal.value s.toList) ∨
      ∃ cs, s.toList = '-' :: cs ∧ Numeral cs ∧ v = -(Decimal.value cs : Int) := by
  by_cases minus : s.toList.head? = some '-'
  · obtain ⟨cs, text⟩ : ∃ cs, s.toList = '-' :: cs := List.head?_eq_some_iff.mp minus
    have unsigned : ¬ Numeral ('-' :: cs) := fun h => absurd (h.digits '-' (by simp)) (by decide)
    have split : splitSign s.toList = (true, cs) := by rw [text, splitSign_minus]
    rw [readValue_of_splitSign split, text]
    simp [unsigned]
  · have signed (cs : List Char) : s.toList ≠ '-' :: cs :=
      fun text => minus (by rw [text, List.head?_cons])
    rw [readValue_of_splitSign (splitSign_of_head minus)]
    simp [signed]

theorem valueOfJson_eq_ok {j : Json} {v : Int} :
    valueOfJson j = .ok v ↔ ∃ s, j = .text s ∧ readValue s = .ok v := by
  rw [valueOfJson, bind_eq_ok]
  simp only [mapError_eq_ok]
  constructor
  · rintro ⟨s, text, read⟩
    cases j with
    | text s' =>
      obtain rfl := Except.ok.inj text
      exact ⟨s', rfl, read⟩
    | _ => cases text
  · rintro ⟨s, rfl, read⟩
    exact ⟨s, rfl, read⟩

theorem valueText_natCast (n : Nat) : (valueText n).toList = Decimal.digits n :=
  String.toList_ofList

theorem valueText_neg {n : Nat} (positive : 0 < n) :
    (valueText (-(n : Int))).toList = '-' :: Decimal.digits n := by
  obtain ⟨m, rfl⟩ := Nat.exists_eq_succ_of_ne_zero (Nat.ne_of_gt positive)
  exact String.toList_ofList

/-- Only `-0` is read without being the text that is written. -/
theorem readValue_iff {s : String} {v : Int} :
    readValue s = .ok v ↔ s = valueText v ∨ s = "-0" ∧ v = 0 := by
  constructor
  · intro h
    obtain ⟨numeral, rfl⟩ | ⟨cs, text, numeral, rfl⟩ := readValue_eq_ok.mp h
    · left
      rw [← String.toList_inj, valueText_natCast, Decimal.digits_value numeral]
    · have digits := Decimal.digits_value numeral
      obtain zero | positive := Nat.eq_zero_or_pos (Decimal.value cs)
      · right
        rw [zero] at digits ⊢
        rw [← String.toList_inj, text, ← digits]
        exact ⟨rfl, rfl⟩
      · left
        rw [← String.toList_inj, valueText_neg positive, text, digits]
  · rintro (rfl | ⟨rfl, rfl⟩)
    · exact readValue_valueText v
    · rfl

/-- An integer is read from the text that is written for it and from no other JSON value, except
that zero is read from `-0` too. The texts that are read are the numerals after at most one
minus sign, and all others are refused. So two texts of one value are the same text, unless one
of them is `-0`. -/
theorem one_text (j : Json) (v : Int) :
    (valueOfJson j = .ok v ↔ j = .text (valueText v) ∨ j = .text "-0" ∧ v = 0) ∧
      (∀ s, (∃ v, valueOfJson (.text s) = .ok v) ↔
        Numeral s.toList ∨ ∃ cs, s.toList = '-' :: cs ∧ Numeral cs) ∧
      ∀ s t, s ≠ "-0" → t ≠ "-0" →
        valueOfJson (.text s) = .ok v → valueOfJson (.text t) = .ok v → s = t := by
  have read (j : Json) : valueOfJson j = .ok v ↔
      j = .text (valueText v) ∨ j = .text "-0" ∧ v = 0 := by
    rw [valueOfJson_eq_ok]
    constructor
    · rintro ⟨s, rfl, read⟩
      exact (readValue_iff.mp read).imp (congrArg Json.text) (And.imp_left (congrArg Json.text))
    · rintro (rfl | ⟨rfl, rfl⟩)
      · exact ⟨_, rfl, readValue_valueText v⟩
      · exact ⟨_, rfl, rfl⟩
  refine ⟨read j, fun s => ?_, fun s t plain plain' known known' => ?_⟩
  · simp only [valueOfJson_eq_ok, Json.text.injEq, exists_eq_left', readValue_eq_ok]
    constructor
    · rintro ⟨v, ⟨numeral, -⟩ | ⟨cs, text, numeral, -⟩⟩
      · exact .inl numeral
      · exact .inr ⟨cs, text, numeral⟩
    · rintro (numeral | ⟨cs, text, numeral⟩)
      · exact ⟨_, .inl ⟨numeral, rfl⟩⟩
      · exact ⟨_, .inr ⟨cs, text, numeral, rfl⟩⟩
  · simp only [read, Json.text.injEq, plain, plain', false_and, or_false] at known known'
    rw [known, known']

end Amount

namespace Specimen

/-- The text of a large debit is the only one that is read as its value, apart from `-0`. -/
theorem debit_one_text :
    Amount.valueOfJson (.text "-1010000000000000000000") = .ok (-1010000000000000000000) ∧
      ∀ t, t ≠ "-0" → Amount.valueOfJson (.text t) = .ok (-1010000000000000000000) →
        t = "-1010000000000000000000" := by
  have known : Amount.valueOfJson (.text "-1010000000000000000000") =
      .ok (-1010000000000000000000) := by rfl
  obtain ⟨-, -, same⟩ := Amount.one_text (.text "-1010000000000000000000") (-1010000000000000000000)
  exact ⟨known, fun t plain read => same t _ plain (by decide) read known⟩

/-- Zero is read from a text that is not written for it. -/
theorem minus_zero_read :
    Amount.valueOfJson (.text "-0") = .ok 0 ∧ Amount.valueOfJson (.text "0") = .ok 0 ∧
      Amount.valueText 0 ≠ "-0" := by
  refine ⟨rfl, rfl, ?_⟩
  decide

end Specimen

end LedgerGateway
