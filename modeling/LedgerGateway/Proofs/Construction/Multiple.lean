import LedgerGateway.Proofs.Binary64
import LedgerGateway.Proofs.Construction.Suggestion

/-!
# A price times a multiplier

The multiplier is brought to a whole number of millionths, by one binary product that is rounded
up (`Factored`); from there on all is exact. The multiple of a price is rounded up to a whole
price, and is refused only when that has more than 64 bits (`Multiplies`): a product with more
than 128 bits is never that of such a price (`scalable_iff`), so nothing wraps and nothing is
refused on the way.
-/

namespace LedgerGateway.Suggestion

/-- The multiplier in millionths as a binary number. -/
def product (m : Binary64) : Binary64 := m.mul (.ofNat scale)

/-- What a price comes to when it is multiplied by the number of millionths. -/
def multiple (price : UInt64) (m : Binary64) : ℚ := price.toNat * factor m / 10 ^ 6

/-- The number of millionths is at least one. It is the product rounded up, and as much as 128 bits
hold when that is more; an infinite product is more as well. -/
structure Factored (m : Binary64) : Prop where
  finite : (product m).isFinite = true →
    factor m = min ⌈(product m).value⌉₊ (2 ^ 128 - 1) ∧
      |(product m).value - m.value * 10 ^ 6| ≤ m.value * 10 ^ 6 / 2 ^ 53
  infinite : (product m).isFinite = false → product m = .infinity false ∧ factor m = 2 ^ 128 - 1
  positive : 1 ≤ factor m

/-- A price is multiplied to the multiple rounded up, if that is a price. -/
structure Multiplies (price : UInt64) (m : Binary64) : Prop where
  fits : ∀ v, scaledPrice price m = .ok v ↔
    ⌈multiple price m⌉₊ ≤ 2 ^ 64 - 1 ∧ v.toNat = ⌈multiple price m⌉₊
  overflows : 2 ^ 64 - 1 < ⌈multiple price m⌉₊ →
    scaledPrice price m = .error (.invalidGasPrice (.overflow price m))
  covers : ∀ v, scaledPrice price m = .ok v → price.toNat * factor m ≤ v.toNat * 10 ^ 6
  positive : ∀ v, scaledPrice price m = .ok v → 1 ≤ price → 1 ≤ v
  unchanged : factor m = 10 ^ 6 → scaledPrice price m = .ok price
  monotone : ∀ v, scaledPrice price m = .ok v →
    ∀ price' m', m'.isFinite = true → 0 < m'.value → price' ≤ price →
    factor m' ≤ factor m → ∃ v' ≤ v, scaledPrice price' m' = .ok v'

variable {price price' v : UInt64} {m m' : Binary64}

theorem isMultiplier_iff : m.isMultiplier = true ↔ m.isFinite = true ∧ 0 < m.value := by
  rw [Binary64.isMultiplier, Bool.and_eq_true]
  exact and_congr_right fun finite => (Binary64.value_pos_iff finite).symm

theorem scale_whole :
    (Binary64.ofNat scale).isFinite = true ∧ (Binary64.ofNat scale).isNegative = false ∧
    (Binary64.ofNat scale).units = 1000000 * Binary64.unitsOfOne := by decide +kernel

theorem factor_eq (m : Binary64) : factor m =
    if (product m).isFinite then min ⌈(product m).value⌉₊ (2 ^ 128 - 1) else 2 ^ 128 - 1 := by
  rw [← Binary64.ceilNat_eq]
  rfl

theorem factored (finite : m.isFinite = true) (positive : 0 < m.value) : Factored m := by
  obtain ⟨finiteScale, above, whole⟩ := scale_whole
  obtain ⟨above', some⟩ := Binary64.of_isPositive ((Binary64.value_pos_iff finite).mp positive)
  obtain ⟨positive', real⟩ :=
    Binary64.mul_whole_cases finite finiteScale above' above whole some (by decide)
  have large (infinite : (product m).isFinite = false) : factor m = 2 ^ 128 - 1 := by
    rw [factor_eq, infinite, if_neg Bool.false_ne_true]
  have rounded (finite' : (product m).isFinite = true) :
      factor m = min ⌈(product m).value⌉₊ (2 ^ 128 - 1) := by
    rw [factor_eq, if_pos finite']
  constructor
  case finite =>
    intro finite'
    have once := Binary64.mul_whole_rounded finite finiteScale above' above whole finite'
    refine ⟨rounded finite', ?_⟩
    norm_num at once ⊢
    exact once
  case infinite =>
    intro infinite
    exact ⟨real.resolve_left (Bool.eq_false_iff.mp infinite), large infinite⟩
  case positive =>
    cases finite' : (product m).isFinite with
    | false =>
      rw [large finite']
      decide
    | true =>
      rw [rounded finite', Nat.le_min]
      exact ⟨Nat.ceil_pos.mpr ((Binary64.value_pos_iff finite').mpr positive'), by decide⟩

theorem scaled_eq (price : UInt64) (m : Binary64) : scaled price m = ⌈multiple price m⌉₊ := by
  have whole := ceil_ratio (price.toNat * factor m) (d := scale) (by decide)
  rw [scaled, whole, multiple, Nat.cast_mul]
  norm_num [scale]

/-- A price that is rounded up covers its multiple. -/
theorem product_le_scaled (price : UInt64) (m : Binary64) :
    price.toNat * factor m ≤ scaled price m * 10 ^ 6 := by
  simp only [scaled, scale]
  omega

/-- Only the price decides; a product that is too large is that of a price which is too large. -/
theorem scalable_iff : Scalable price m ↔ ⌈multiple price m⌉₊ ≤ 2 ^ 64 - 1 := by
  have covered := product_le_scaled price m
  rw [← scaled_eq, Scalable]
  simp only [bound, UInt64.size]
  omega

theorem scaledPrice_eq_ok (finite : m.isFinite = true) (positive : 0 < m.value) :
    scaledPrice price m = .ok v ↔
      ⌈multiple price m⌉₊ ≤ 2 ^ 64 - 1 ∧ v.toNat = ⌈multiple price m⌉₊ := by
  rw [scaledPrice_of_isMultiplier (isMultiplier_iff.mpr ⟨finite, positive⟩),
    ← scalable_iff, ← scaled_eq]
  by_cases fits : Scalable price m
  · have number : (UInt64.ofNat (scaled price m)).toNat = scaled price m :=
      UInt64.toNat_ofNat_of_lt fits.2
    rw [if_pos fits, Except.ok.injEq, ← UInt64.toNat_inj, number]
    exact ⟨fun same => ⟨fits, same.symm⟩, fun same => same.2.symm⟩
  · rw [if_neg fits]
    exact iff_of_false (fun ok => by cases ok) fun both => fits both.1

theorem multiple_mono (less : price' ≤ price) (smaller : factor m' ≤ factor m) :
    multiple price' m' ≤ multiple price m := by
  have products : price'.toNat * factor m' ≤ price.toNat * factor m :=
    Nat.mul_le_mul (UInt64.le_iff_toNat_le.mp less) smaller
  rw [multiple, multiple]
  apply div_le_div_of_nonneg_right _ (by norm_num)
  exact_mod_cast products

theorem multiplies (finite : m.isFinite = true) (positive : 0 < m.value) (price : UInt64) :
    Multiplies price m := by
  have result (v : UInt64) : scaledPrice price m = .ok v ↔ _ := scaledPrice_eq_ok finite positive
  have covers (v : UInt64) (ok : scaledPrice price m = .ok v) : price.toNat * factor m ≤
      v.toNat * 10 ^ 6 := by
    rw [((result v).mp ok).2, ← scaled_eq]
    exact product_le_scaled price m
  constructor
  case fits => exact result
  case overflows =>
    intro large
    rw [scaledPrice_of_isMultiplier (isMultiplier_iff.mpr ⟨finite, positive⟩), if_neg]
    rw [scalable_iff]
    exact Nat.not_le.mpr large
  case covers => exact covers
  case positive =>
    intro v ok some
    have least := Nat.mul_pos (UInt64.le_iff_toNat_le.mp some) (factored finite positive).positive
    have most := covers v ok
    apply UInt64.le_iff_toNat_le.mpr
    change 1 ≤ v.toNat
    omega
  case unchanged =>
    intro one
    have same : multiple price m = price.toNat := by
      rw [multiple, one]
      norm_num
    rw [result, same, Nat.ceil_natCast]
    exact ⟨Nat.le_sub_one_of_lt price.toNat_lt, rfl⟩
  case monotone =>
    intro v ok price' m' finite' positive' less smaller
    obtain ⟨fits, number⟩ := (result v).mp ok
    have below : ⌈multiple price' m'⌉₊ ≤ ⌈multiple price m⌉₊ :=
      Nat.ceil_mono (multiple_mono less smaller)
    have number' : (UInt64.ofNat ⌈multiple price' m'⌉₊).toNat = ⌈multiple price' m'⌉₊ :=
      UInt64.toNat_ofNat_of_lt (by simp only [UInt64.size]; omega)
    refine ⟨.ofNat ⌈multiple price' m'⌉₊, ?_, ?_⟩
    · rw [UInt64.le_iff_toNat_le, number', number]
      exact below
    · exact (scaledPrice_eq_ok finite' positive').mpr ⟨Nat.le_trans below fits, number'⟩

/-- A finite positive multiplier is brought to a whole number of millionths, and any price is then
multiplied by that number exactly, rounded up; it is refused just when the result has more than 64
bits. Other multipliers are refused as such. -/
theorem scaledPrice_exact (m : Binary64) :
    (m.isFinite = true → 0 < m.value → Factored m ∧ ∀ price, Multiplies price m) ∧
      (m.isFinite = false ∨ m.value ≤ 0 → ∀ price,
        scaledPrice price m = .error (.invalidInput (.multiplier m))) := by
  constructor
  · intro finite positive
    exact ⟨factored finite positive, multiplies finite positive⟩
  · intro unfit price
    have none : m.isMultiplier = false := by
      rw [Bool.eq_false_iff, Ne, isMultiplier_iff]
      rintro ⟨finite, positive⟩
      obtain infinite | nonpositive := unfit
      · cases infinite.symm.trans finite
      · exact absurd positive (not_lt.mpr nonpositive)
    rw [scaledPrice, none]
    rfl

end LedgerGateway.Suggestion

namespace LedgerGateway.Specimen

/-- One and a half. -/
def threeHalves : Binary64 := ⟨0x3ff8000000000000⟩

theorem threeHalves_fits : threeHalves.isFinite = true ∧ threeHalves.isPositive = true ∧
    Suggestion.factor threeHalves = 1500000 := by decide +kernel

/-- A price of four and a half is rounded up, and half as much again as the highest price is
refused. -/
theorem price_multiplied : threeHalves.isFinite = true ∧ 0 < threeHalves.value ∧
    Suggestion.scaledPrice 3 threeHalves = .ok 5 ∧
    Suggestion.scaledPrice 0xffffffffffffffff threeHalves =
      .error (.invalidGasPrice (.overflow 0xffffffffffffffff threeHalves)) := by
  obtain ⟨finite, isPositive, millionths⟩ := threeHalves_fits
  have positive : 0 < threeHalves.value := (Binary64.value_pos_iff finite).mpr isPositive
  have multiplied := ((Suggestion.scaledPrice_exact threeHalves).1 finite positive).2
  have odd : ⌈Suggestion.multiple 3 threeHalves⌉₊ = 5 := by
    have price : (3 : UInt64).toNat = 3 := rfl
    rw [Suggestion.multiple, millionths, price, Nat.ceil_eq_iff (by decide)]
    norm_num
  have highest : 2 ^ 64 - 1 < ⌈Suggestion.multiple 0xffffffffffffffff threeHalves⌉₊ := by
    have price : (0xffffffffffffffff : UInt64).toNat = 2 ^ 64 - 1 := rfl
    rw [Suggestion.multiple, millionths, price, Nat.lt_ceil]
    norm_num
  refine ⟨finite, positive, ((multiplied 3).fits 5).mpr ⟨?_, ?_⟩, (multiplied _).overflows highest⟩
  · rw [odd]
    decide
  · rw [odd]
    rfl

end LedgerGateway.Specimen
