import LedgerGateway.Decimal
import Mathlib.Data.List.Induction

/-!
# Numbers are read back from decimal text

Numbers of any size, and words as long as no sign stands before them. The other way round, digits
without a zero to spare (`Numeral`) are the ones that are written for their number.
-/

namespace LedgerGateway.Decimal

theorem value_digits (n : Nat) : value (digits n) = n := by
  have step : (fun (m : Nat) (c : Char) => m * 10 + (c.toNat - 48)) =
      fun m c => 10 * m + (c.toNat - '0'.toNat) := by
    funext m c
    rw [Nat.mul_comm]
    rfl
  rw [value, step]
  exact Nat.ofDigitChars_ten_toDigits

theorem isDigit_digits (n : Nat) : ∀ c ∈ digits n, c.isDigit = true :=
  fun _ h => Nat.isDigit_of_mem_toDigits (by decide) (by decide) h

theorem nat?_digits (n : Nat) : nat? (digits n) = some n := by
  have written : digits n ≠ [] ∧ (digits n).all Char.isDigit = true :=
    ⟨Nat.toDigits_ne_nil, List.all_eq_true.mpr (isDigit_digits n)⟩
  rw [nat?, if_pos written, value_digits]

/-- The first digit is not zero, unless the number is. -/
theorem head?_digits {n : Nat} (positive : 0 < n) : (digits n).head? ≠ some '0' := by
  induction n using Nat.strongRecOn with
  | ind n ih =>
    by_cases small : n < 10
    · have all : ∀ d : Fin 10, 0 < d.val → d.val.digitChar ≠ '0' := by decide
      rw [digits, Nat.toDigits_of_lt_base small, List.head?_cons]
      exact fun zero => all ⟨n, small⟩ positive (Option.some.inj zero)
    · have front : (digits (n / 10)).head? ≠ some '0' := ih (n / 10) (by omega) (by omega)
      rw [digits, Nat.toDigits_of_base_le (by decide) (by omega), ← digits]
      obtain ⟨c, rest, some⟩ :=
        List.exists_cons_of_ne_nil (l := digits (n / 10)) Nat.toDigits_ne_nil
      rwa [some] at front ⊢

/-- Written digits are in the one form that has no zeros to spare. -/
theorem no_spare_zero (n : Nat) : ¬ (1 < (digits n).length ∧ (digits n).head? = some '0') := by
  rintro ⟨long, zero⟩
  obtain rfl | positive := Nat.eq_zero_or_pos n
  · exact absurd long (by decide)
  · exact head?_digits positive zero

theorem word?_digits (n : UInt64) : word? (digits n.toNat) = some n := by
  have unsigned (rest : List Char) (h : digits n.toNat = '+' :: rest) : False := by
    have plus := isDigit_digits n.toNat '+' (by simp [h])
    exact absurd plus (by decide)
  unfold word?
  split
  · rename_i rest signed
    exact (unsigned rest signed).elim
  · have small : n.toNat < UInt64.size := n.toNat_lt
    simp only [nat?_digits, if_pos small, UInt64.ofNat_toNat]

/-! ## Numerals -/

/-- One or more digits, the first of which is a zero only where it stands alone. -/
structure Numeral (cs : List Char) : Prop where
  nonempty : cs ≠ []
  digits : ∀ c ∈ cs, c.isDigit = true
  no_spare_zero : cs.head? = some '0' → cs = ['0']

theorem numeral_iff {cs : List Char} :
    Numeral cs ↔ nat? cs = some (value cs) ∧ ¬ (1 < cs.length ∧ cs.head? = some '0') := by
  have read : nat? cs = some (value cs) ↔ cs ≠ [] ∧ ∀ c ∈ cs, c.isDigit = true := by
    rw [nat?, ← List.all_eq_true]
    split <;> simp_all
  rw [read]
  constructor
  · rintro ⟨nonempty, digits, zero⟩
    refine ⟨⟨nonempty, digits⟩, ?_⟩
    rintro ⟨long, start⟩
    rw [zero start] at long
    exact absurd long (by decide)
  · rintro ⟨⟨nonempty, digits⟩, zero⟩
    refine ⟨nonempty, digits, fun start => ?_⟩
    obtain ⟨c, rest, rfl⟩ := List.exists_cons_of_ne_nil nonempty
    cases rest with
    | nil => exact congrArg (fun c => [c]) (Option.some.inj start)
    | cons d rest => exact absurd ⟨by simp, start⟩ zero

theorem code_of_isDigit {c : Char} (h : c.isDigit = true) : 48 ≤ c.toNat ∧ c.toNat ≤ 57 := by
  simp only [Char.isDigit, Bool.and_eq_true, decide_eq_true_eq, ge_iff_le,
    UInt32.le_iff_toNat_le] at h
  exact h

/-- A digit is the one that is written for its number. -/
theorem digits_of_isDigit {c : Char} (h : c.isDigit = true) :
    c.toNat - 48 < 10 ∧ digits (c.toNat - 48) = [c] := by
  obtain ⟨lower, upper⟩ := code_of_isDigit h
  have small : c.toNat - 48 < 10 := by omega
  refine ⟨small, ?_⟩
  rw [digits, Nat.toDigits_of_lt_base small, List.singleton_inj]
  apply Char.toNat_inj.mp
  rw [Nat.toNat_digitChar_of_lt_ten small]
  omega

theorem value_append_singleton (cs : List Char) (c : Char) :
    value (cs ++ [c]) = 10 * value cs + (c.toNat - 48) := by
  simp [value, Nat.mul_comm]

/-- Digits that do not begin with a zero are the ones that are written for their number,
which is not zero. -/
theorem digits_value_of_head {cs : List Char} (nonempty : cs ≠ [])
    (all : ∀ c ∈ cs, c.isDigit = true) (start : cs.head? ≠ some '0') :
    0 < value cs ∧ digits (value cs) = cs := by
  induction cs using List.reverseRecOn with
  | nil => exact absurd rfl nonempty
  | append_singleton cs c ih =>
    obtain ⟨small, last⟩ := digits_of_isDigit (all c (by simp))
    rw [value_append_singleton]
    cases cs with
    | nil =>
      have positive : 0 < c.toNat - 48 := by
        apply Nat.pos_of_ne_zero
        intro zero
        rw [zero] at last
        exact start (congrArg List.head? last.symm)
      rw [value, List.foldl_nil, Nat.mul_zero, Nat.zero_add]
      exact ⟨positive, last⟩
    | cons d cs =>
      obtain ⟨positive, front⟩ := ih (by simp) (fun d hd => all d (List.mem_append_left _ hd)) start
      refine ⟨by omega, ?_⟩
      rw [digits, ← Nat.toDigits_append_toDigits (by decide) positive small, ← digits,
        ← digits, front, last]

/-- A numeral is the one text of its number. -/
theorem digits_value {cs : List Char} (h : Numeral cs) : digits (value cs) = cs := by
  by_cases start : cs.head? = some '0'
  · rw [h.no_spare_zero start]
    rfl
  · exact (digits_value_of_head h.nonempty h.digits start).2

end LedgerGateway.Decimal
