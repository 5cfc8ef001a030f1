import LedgerGateway.Binary64
import Mathlib.Data.Rat.Floor
import Mathlib.Tactic.Linarith

/-!
# The numbers that binary patterns stand for

A finite pattern stands for a whole number of units with a sign (`Binary64.value`), and is rounded
up as that number is (`ceilNat_eq`). A product of positive numbers, of which one is at least one, is
not rounded down to nothing; where it is out of range, it is infinite (`mul_whole_cases`), and
elsewhere it is rounded once, to 53 bits (`mul_whole_rounded`).
-/

namespace LedgerGateway

/-- Dividing after adding all but one of the divisor rounds up. -/
theorem ceil_ratio (n : Nat) {d : Nat} (positive : 0 < d) : (n + (d - 1)) / d = ⌈(n / d : ℚ)⌉₊ := by
  apply eq_of_forall_ge_iff
  intro k
  have divisor : (0 : ℚ) < d := Nat.cast_pos.mpr positive
  rw [Nat.div_le_iff_le_mul_add_pred positive, Nat.ceil_le, div_le_iff₀ divisor,
    Nat.add_le_add_iff_right, Nat.mul_comm]
  exact_mod_cast Iff.rfl

namespace Binary64

variable {a b : Binary64}

/-- The number that a finite pattern stands for. -/
def value (a : Binary64) : ℚ := (if a.isNegative then -1 else 1) * (a.units / unitsOfOne)

theorem power_pos (n : Nat) : 0 < Nat.pow 2 n := Nat.two_pow_pos n

theorem unitsOfOne_pos : 0 < unitsOfOne := by
  unfold unitsOfOne
  generalize 1074 = n
  exact power_pos n

theorem magnitude_nonneg (a : Binary64) : (0 : ℚ) ≤ a.units / unitsOfOne :=
  div_nonneg (Nat.cast_nonneg _) (Nat.cast_nonneg _)

/-- The pattern of a magnitude is made of exponent and fraction. -/
theorem pattern_eq (a : Binary64) :
    a.bits.toNat % signWeight = a.exponentField * fractions + a.fraction := by
  simp only [signWeight, exponentField, fractions, fraction]
  omega

theorem units_pos_iff : 0 < a.units ↔ a.isZero = false := by
  have pattern := a.pattern_eq
  have zero : a.isZero = false ↔ a.bits.toNat % signWeight ≠ 0 := by
    rw [isZero, beq_eq_false_iff_ne]
  rw [units, Nat.mul_pos_iff_of_pos_right (power_pos _), zero, pattern, significand]
  simp only [fractions]
  split <;> omega

theorem value_pos_iff (finite : a.isFinite = true) : 0 < a.value ↔ a.isPositive = true := by
  have one : (0 : ℚ) < unitsOfOne := Nat.cast_pos.mpr unitsOfOne_pos
  cases negative : a.isNegative with
  | true =>
    have below : a.value ≤ 0 := by
      rw [value, negative, if_pos rfl, neg_one_mul, neg_nonpos]
      exact a.magnitude_nonneg
    simp [isPositive, negative, below]
  | false =>
    have magnitude : 0 < a.value ↔ 0 < a.units := by
      rw [value, negative, if_neg Bool.false_ne_true, one_mul,
        div_pos_iff_of_pos_right one, Nat.cast_pos]
    rw [magnitude, units_pos_iff]
    simp [isPositive, negative, finite]

theorem of_isPositive (positive : a.isPositive = true) : a.isNegative = false ∧ 0 < a.units := by
  simp only [isPositive, Bool.and_eq_true, Bool.not_eq_true'] at positive
  exact ⟨positive.1.1, units_pos_iff.mpr positive.1.2⟩

/-- Rounding up what a pattern stands for; nothing is left of what is not above zero. -/
theorem ceilNat_eq (a : Binary64) : a.ceilNat = ⌈a.value⌉₊ := by
  rw [ceilNat, value]
  cases a.isNegative with
  | true =>
    rw [if_pos rfl, if_pos rfl, neg_one_mul, eq_comm, Nat.ceil_eq_zero, neg_nonpos]
    exact a.magnitude_nonneg
  | false =>
    rw [if_neg Bool.false_ne_true, if_neg Bool.false_ne_true, one_mul, ceil_ratio _ unitsOfOne_pos]

/-! ### Rounding to a pattern -/

theorem div_le_nearest (num den : Nat) : num / den ≤ nearest num den := by
  rw [nearest]
  split
  · exact Nat.le_refl _
  · split <;> omega

theorem nearest_le (num den : Nat) : nearest num den ≤ num / den + 1 := by
  rw [nearest]
  split
  · exact Nat.le_succ _
  · split <;> omega

/-- What is nearest is off by at most a half. -/
theorem nearest_off (num : Nat) {den : Nat} (positive : 0 < den) :
    2 * (nearest num den * den) ≤ 2 * num + den ∧ 2 * num ≤ 2 * (nearest num den * den) + den := by
  have parts := Nat.div_add_mod num den
  have rest := Nat.mod_lt num positive
  rw [nearest]
  split
  · rw [Nat.mul_comm (num / den)]
    omega
  · split
    · rename_i tie
      rcases Nat.mod_two_eq_zero_or_one (num / den) with even | odd
      · rw [even, Nat.add_zero, Nat.mul_comm (num / den)]
        omega
      · rw [odd, Nat.add_mul, Nat.one_mul, Nat.mul_comm (num / den)]
        omega
    · rw [Nat.add_mul, Nat.one_mul, Nat.mul_comm (num / den)]
      omega

/-- The scale at which a ratio is rounded, and the factor that it is rounded to: one more bit than a
fraction has, unless the scale is the smallest one. -/
theorem magnitude_scaled (num : Nat) {den : Nat} (positive : 0 < den) : ∃ s q,
    magnitudeOfRatio num den = min (s * fractions + q) infinite ∧
    q = nearest (num * unitsOfOne) (den * 2 ^ s) ∧ q ≤ 2 * fractions ∧
    (s = 0 ∨ fractions ≤ q ∧ fractions * (den * 2 ^ s) ≤ num * unitsOfOne) := by
  refine ⟨_, _, rfl, rfl, ?_⟩
  generalize num * unitsOfOne = x
  have power (n : Nat) : 0 < den * 2 ^ n := Nat.mul_pos positive (Nat.two_pow_pos n)
  constructor
  · have above : x / den < 2 ^ ((x / den).log2 - 52) * (2 * fractions) := by
      have size := Nat.lt_log2_self (n := x / den)
      have width : 2 * fractions = 2 ^ 53 := rfl
      rw [width, ← Nat.pow_add]
      exact Nat.lt_of_lt_of_le size (Nat.pow_le_pow_right (by decide) (by omega))
    have whole : x / (den * 2 ^ ((x / den).log2 - 52)) < 2 * fractions := by
      rw [← Nat.div_div_eq_div_mul]
      exact Nat.div_lt_of_lt_mul above
    exact Nat.le_trans (nearest_le _ _) whole
  · by_cases small : (x / den).log2 ≤ 52
    · exact .inl (Nat.sub_eq_zero_of_le small)
    · have large : x / den ≠ 0 := by
        intro none
        rw [none] at small
        exact small (by decide)
      have below : fractions * (den * 2 ^ ((x / den).log2 - 52)) ≤ x := by
        have size := Nat.log2_self_le large
        have width : fractions = 2 ^ 52 := rfl
        have whole : 2 ^ 52 * 2 ^ ((x / den).log2 - 52) = 2 ^ (x / den).log2 := by
          rw [← Nat.pow_add]
          congr 1
          omega
        calc fractions * (den * 2 ^ ((x / den).log2 - 52)) = 2 ^ (x / den).log2 * den := by
              rw [width, Nat.mul_left_comm, whole, Nat.mul_comm]
          _ ≤ x := (Nat.le_div_iff_mul_le positive).mp size
      exact .inr ⟨Nat.le_trans ((Nat.le_div_iff_mul_le (power _)).mpr below) (div_le_nearest _ _),
        below⟩

/-- What is at least one unit is not rounded down to nothing. -/
theorem magnitudeOfRatio_pos {num den : Nat} (positive : 0 < den) (unit : den ≤ num * unitsOfOne) :
    0 < magnitudeOfRatio num den := by
  obtain ⟨s, q, rounded, nearby, -, scaled⟩ := magnitude_scaled num positive
  have some : 0 < q := by
    obtain rfl | ⟨large, -⟩ := scaled
    · rw [nearby, Nat.pow_zero, Nat.mul_one]
      exact Nat.lt_of_lt_of_le (Nat.div_pos unit positive) (div_le_nearest _ _)
    · exact Nat.lt_of_lt_of_le (by decide) large
  rw [rounded, Nat.lt_min]
  exact ⟨by omega, by decide⟩

theorem magnitudeOfRatio_le (num den : Nat) : magnitudeOfRatio num den ≤ infinite :=
  Nat.min_le_right _ _

section
variable {magnitude : Nat} (h : magnitude ≤ infinite)
include h

theorem toNat_ofParts : (ofParts false magnitude).bits.toNat = magnitude := by
  have small : magnitude < UInt64.size := Nat.lt_of_le_of_lt h (by decide)
  rw [ofParts, if_neg Bool.false_ne_true, Nat.zero_add]
  exact UInt64.toNat_ofNat_of_lt small

theorem isNegative_ofParts : (ofParts false magnitude).isNegative = false := by
  have below : ¬ signWeight ≤ magnitude := Nat.not_le.mpr (Nat.lt_of_le_of_lt h (by decide))
  rw [isNegative, toNat_ofParts h]
  exact decide_eq_false below

theorem isFinite_ofParts : (ofParts false magnitude).isFinite = true ↔ magnitude < infinite := by
  rw [isFinite, bne_iff_ne, exponentField, toNat_ofParts h]
  simp only [infinite, fractions] at h ⊢
  omega

theorem isPositive_ofParts (some : 0 < magnitude) :
    (ofParts false magnitude).isPositive = true := by
  have below : magnitude < signWeight := Nat.lt_of_le_of_lt h (by decide)
  have nonzero : (ofParts false magnitude).isZero = false := by
    rw [isZero, toNat_ofParts h, Nat.mod_eq_of_lt below]
    exact beq_eq_false_iff_ne.mpr (Nat.ne_of_gt some)
  have real :
      ((ofParts false magnitude).isFinite || (ofParts false magnitude).isInfinite) = true := by
    rcases Nat.lt_or_eq_of_le h with finite | rfl
    · rw [(isFinite_ofParts h).mpr finite, Bool.true_or]
    · decide
  rw [isPositive, isNegative_ofParts h, nonzero, real]
  rfl

end

/-- A pattern at a scale has the factor that it was made of, also where that is one bit too long. -/
theorem units_ofParts {s q : Nat} (scaled : s = 0 ∨ fractions ≤ q) (most : q ≤ 2 * fractions)
    (finite : s * fractions + q < infinite) :
    (ofParts false (s * fractions + q)).units = q * 2 ^ s := by
  have pattern := toNat_ofParts (Nat.le_of_lt finite)
  generalize ofParts false (s * fractions + q) = a at pattern ⊢
  rcases Nat.lt_or_ge q fractions with short | full
  · have lowest : s = 0 := scaled.resolve_right (Nat.not_le.mpr short)
    have exponent : a.exponentField = 0 := by
      rw [exponentField, pattern]
      simp only [fractions] at short ⊢
      omega
    have fraction : a.fraction = q := by
      rw [fraction, pattern, lowest, Nat.zero_mul, Nat.zero_add, Nat.mod_eq_of_lt short]
    rw [units, significand, Binary64.scale, exponent, if_pos rfl, fraction, lowest]
    rfl
  · rcases Nat.lt_or_eq_of_le most with fits | rfl
    · have exponent : a.exponentField = s + 1 := by
        rw [exponentField, pattern]
        simp only [fractions, infinite] at full fits finite ⊢
        omega
      have fraction : fractions + a.fraction = q := by
        rw [Binary64.fraction, pattern]
        simp only [fractions] at full fits ⊢
        omega
      rw [units, significand, Binary64.scale, exponent, if_neg (Nat.succ_ne_zero s), fraction]
      rfl
    · have exponent : a.exponentField = s + 2 := by
        rw [exponentField, pattern]
        simp only [fractions, infinite] at finite ⊢
        omega
      have fraction : a.fraction = 0 := by
        rw [Binary64.fraction, pattern, ← Nat.add_mul, Nat.mul_mod_left]
      have doubled : 2 * fractions * 2 ^ s = fractions * 2 ^ (s + 1) := by
        rw [Nat.pow_succ, Nat.mul_comm 2, Nat.mul_assoc, Nat.mul_comm 2]
      rw [units, significand, Binary64.scale, exponent, if_neg (Nat.succ_ne_zero _),
        fraction, doubled]
      rfl

/-! ### Products with a whole number -/

/-- Rounding a whole number of units is off by at most one part in `2 ^ 53`. -/
theorem units_ofRatio {num den k : Nat} (positive : 0 < den) (whole : num * unitsOfOne = k * den)
    (finite : magnitudeOfRatio num den < infinite) :
    2 ^ 53 * (ofParts false (magnitudeOfRatio num den)).units ≤ 2 ^ 53 * k + k ∧
      2 ^ 53 * k ≤ 2 ^ 53 * (ofParts false (magnitudeOfRatio num den)).units + k := by
  obtain ⟨s, q, rounded, nearby, most, scaled⟩ := magnitude_scaled num positive
  have inside : s * fractions + q < infinite := by omega
  rw [rounded, Nat.min_eq_left (Nat.le_of_lt inside),
    units_ofParts (scaled.imp_right And.left) most inside]
  have spaced : 0 < den * 2 ^ s := Nat.mul_pos positive (Nat.two_pow_pos s)
  obtain ⟨above, below⟩ := nearest_off (num * unitsOfOne) spaced
  have common : q * (den * 2 ^ s) = q * 2 ^ s * den := by rw [Nat.mul_comm den, Nat.mul_assoc]
  rw [← nearby, whole, common] at above below
  have less : 2 * (q * 2 ^ s) ≤ 2 * k + 2 ^ s := by
    apply Nat.le_of_mul_le_mul_right _ positive
    rw [Nat.add_mul, Nat.mul_assoc, Nat.mul_assoc 2 k, Nat.mul_comm (2 ^ s) den]
    exact above
  have more : 2 * k ≤ 2 * (q * 2 ^ s) + 2 ^ s := by
    apply Nat.le_of_mul_le_mul_right _ positive
    rw [Nat.add_mul, Nat.mul_assoc, Nat.mul_assoc 2 (q * 2 ^ s), Nat.mul_comm (2 ^ s) den]
    exact below
  obtain rfl | ⟨-, large⟩ := scaled
  · -- at the smallest scale the whole number is kept
    omega
  · have bits : fractions * 2 ^ s ≤ k := by
      apply Nat.le_of_mul_le_mul_right _ positive
      rw [Nat.mul_assoc, Nat.mul_comm (2 ^ s), ← whole]
      exact large
    simp only [fractions] at bits
    omega

section
variable {n : Nat} (ha : a.isFinite = true) (hb : b.isFinite = true) (na : a.isNegative = false)
  (nb : b.isNegative = false) (whole : b.units = n * unitsOfOne)
include ha hb na nb

theorem mul_eq :
    a.mul b = ofParts false (magnitudeOfRatio (a.units * b.units) (unitsOfOne * unitsOfOne)) := by
  rw [mul, ha, hb, na, nb]
  rfl

include whole

/-- A positive number times a whole one is positive; where it is out of range, it is infinite. -/
theorem mul_whole_cases (some : 0 < a.units) (one : 0 < n) : (a.mul b).isPositive = true ∧
    ((a.mul b).isFinite = true ∨ a.mul b = infinity false) := by
  have most := magnitudeOfRatio_le (a.units * b.units) (unitsOfOne * unitsOfOne)
  have unit : unitsOfOne * unitsOfOne ≤ a.units * b.units * unitsOfOne := by
    rw [whole, ← Nat.mul_assoc]
    exact Nat.mul_le_mul_right _ (Nat.le_mul_of_pos_left _ (Nat.mul_pos some one))
  have least := magnitudeOfRatio_pos (Nat.mul_pos unitsOfOne_pos unitsOfOne_pos) unit
  rw [mul_eq ha hb na nb]
  refine ⟨isPositive_ofParts most least, ?_⟩
  rcases Nat.lt_or_eq_of_le most with finite | infinite
  · exact .inl ((isFinite_ofParts most).mpr finite)
  · exact .inr (congrArg _ infinite)

/-- A product with a whole number is rounded once, to 53 bits. -/
theorem mul_whole_rounded (finite : (a.mul b).isFinite = true) :
    |(a.mul b).value - a.value * n| ≤ a.value * n / 2 ^ 53 := by
  have most := magnitudeOfRatio_le (a.units * b.units) (unitsOfOne * unitsOfOne)
  have product : a.units * b.units * unitsOfOne = a.units * n * (unitsOfOne * unitsOfOne) := by
    rw [whole, ← Nat.mul_assoc, Nat.mul_assoc (a.units * n)]
  have one : (0 : ℚ) < unitsOfOne := Nat.cast_pos.mpr unitsOfOne_pos
  rw [mul_eq ha hb na nb] at finite ⊢
  obtain ⟨above, below⟩ := units_ofRatio (Nat.mul_pos unitsOfOne_pos unitsOfOne_pos) product
    ((isFinite_ofParts most).mp finite)
  rw [value, value, isNegative_ofParts most, na, if_neg Bool.false_ne_true, one_mul, one_mul]
  generalize (ofParts false _).units = p at above below ⊢
  generalize (unitsOfOne : ℚ) = u at one ⊢
  have above : (2 : ℚ) ^ 53 * p ≤ 2 ^ 53 * (a.units * n) + a.units * n := by exact_mod_cast above
  have below : (2 : ℚ) ^ 53 * (a.units * n) ≤ 2 ^ 53 * p + a.units * n := by exact_mod_cast below
  have difference : (p / u - a.units / u * n : ℚ) = (p - a.units * n) / u := by ring
  have part : (a.units / u * n / 2 ^ 53 : ℚ) = a.units * n / 2 ^ 53 / u := by ring
  rw [difference, part, abs_div, abs_of_pos one, div_le_div_iff_of_pos_right one, abs_le]
  constructor <;> linarith

end

end Binary64
end LedgerGateway
