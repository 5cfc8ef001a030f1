/-!
# Texts in one case

A change of case moves the code of an ASCII letter by 32 and leaves every other character as it is
(`toNat_toLower`, `toNat_toUpper`). A text whose letters are not in both cases is known by its lower
case: it is that or the upper case of it (`oneCase_iff`).
-/

namespace LedgerGateway.Text

variable {c : Char} {cs lower : List Char}

/-- Characters are compared by their codes. -/
theorem between_iff {first last : Char} :
    first.val ≤ c.val ∧ c.val ≤ last.val ↔ first.toNat ≤ c.toNat ∧ c.toNat ≤ last.toNat := by
  simp only [UInt32.le_iff_toNat_le]
  rfl

theorem isUpper_iff : c.isUpper = true ↔ 65 ≤ c.toNat ∧ c.toNat ≤ 90 := by
  unfold Char.isUpper
  rw [decide_eq_true_iff]
  exact between_iff

theorem isLower_iff : c.isLower = true ↔ 97 ≤ c.toNat ∧ c.toNat ≤ 122 := by
  unfold Char.isLower
  rw [Bool.and_eq_true, decide_eq_true_iff, decide_eq_true_iff]
  exact between_iff

theorem toNat_toLower (c : Char) :
    c.toLower.toNat = if 65 ≤ c.toNat ∧ c.toNat ≤ 90 then c.toNat + 32 else c.toNat := by
  have upper : c.val ≥ 'A'.val ∧ c.val ≤ 'Z'.val ↔ 65 ≤ c.toNat ∧ c.toNat ≤ 90 := between_iff
  unfold Char.toLower
  by_cases h : 65 ≤ c.toNat ∧ c.toNat ≤ 90
  · rw [dif_pos (upper.mpr h), if_pos h]
    change (c.val.toNat + 32) % 2 ^ 32 = c.val.toNat + 32
    have small : c.val.toNat ≤ 90 := h.2
    omega
  · rw [dif_neg (mt upper.mp h), if_neg h]

theorem toNat_toUpper (c : Char) :
    c.toUpper.toNat = if 97 ≤ c.toNat ∧ c.toNat ≤ 122 then c.toNat - 32 else c.toNat := by
  have lower : 'a'.val ≤ c.val ∧ c.val ≤ 'z'.val ↔ 97 ≤ c.toNat ∧ c.toNat ≤ 122 := between_iff
  unfold Char.toUpper
  by_cases h : 97 ≤ c.toNat ∧ c.toNat ≤ 122
  · rw [dif_pos (lower.mpr h), if_pos h]
    -- the distance to the upper case is added as a word, which wraps
    have distance : ('A'.val - 'a'.val).toNat = 2 ^ 32 - 32 := rfl
    have large : 97 ≤ c.val.toNat := h.1
    have small : c.val.toNat ≤ 122 := h.2
    change (c.val + ('A'.val - 'a'.val)).toNat = c.val.toNat - 32
    rw [UInt32.toNat_add, distance]
    omega
  · rw [dif_neg (mt lower.mp h), if_neg h]

theorem toLower_toLower (c : Char) : c.toLower.toLower = c.toLower := by
  rw [← Char.toNat_inj]
  grind [toNat_toLower]

theorem toLower_toUpper (c : Char) : c.toUpper.toLower = c.toLower := by
  rw [← Char.toNat_inj]
  grind [toNat_toLower, toNat_toUpper]

theorem toUpper_toLower (c : Char) : c.toLower.toUpper = c.toUpper := by
  rw [← Char.toNat_inj]
  grind [toNat_toLower, toNat_toUpper]

/-- A text in lower case, or the upper case of it. -/
def OneCase (lower cs : List Char) : Prop := cs = lower ∨ cs = lower.map Char.toUpper

theorem OneCase.length_eq (h : OneCase lower cs) : cs.length = lower.length := by
  obtain rfl | rfl := h
  · rfl
  · rw [List.length_map]

theorem map_toLower_of_any_isUpper (none : cs.any Char.isUpper = false) :
    cs.map Char.toLower = cs := by
  have same : ∀ c ∈ cs, c.toLower = id c := by
    intro c hc
    have other := mt isUpper_iff.mpr (List.any_eq_false.mp none c hc)
    rw [← Char.toNat_inj, toNat_toLower, if_neg other, id]
  rw [List.map_congr_left same, List.map_id]

theorem map_toUpper_of_any_isLower (none : cs.any Char.isLower = false) :
    cs.map Char.toUpper = cs := by
  have same : ∀ c ∈ cs, c.toUpper = id c := by
    intro c hc
    have other := mt isLower_iff.mpr (List.any_eq_false.mp none c hc)
    rw [← Char.toNat_inj, toNat_toUpper, if_neg other, id]
  rw [List.map_congr_left same, List.map_id]

theorem any_isLower_map_toUpper (cs : List Char) :
    (cs.map Char.toUpper).any Char.isLower = false := by
  rw [List.any_map, List.any_eq_false]
  intro c _
  rw [Function.comp_apply, isLower_iff, toNat_toUpper]
  split <;> omega

/-- Letters that are not in both cases are those of the lower case or those of the upper case. -/
theorem oneCase_iff (plain : lower.any Char.isUpper = false) :
    OneCase lower cs ↔
      cs.map Char.toLower = lower ∧ (cs.any Char.isLower && cs.any Char.isUpper) = false := by
  have same : lower.map Char.toLower = lower := map_toLower_of_any_isUpper plain
  constructor
  · rintro (rfl | rfl)
    · exact ⟨same, by rw [plain, Bool.and_false]⟩
    · refine ⟨?_, by rw [any_isLower_map_toUpper, Bool.false_and]⟩
      simpa only [List.map_map, Function.comp_def, toLower_toUpper] using same
  · rintro ⟨rfl, unmixed⟩
    obtain none | none := Bool.and_eq_false_iff.mp unmixed
    · right
      simpa only [List.map_map, Function.comp_def, toUpper_toLower] using
        (map_toUpper_of_any_isLower none).symm
    · left
      exact (map_toLower_of_any_isUpper none).symm

/-- A text in one case has one lower case. -/
theorem OneCase.unique {lower' : List Char} (plain : lower.any Char.isUpper = false)
    (plain' : lower'.any Char.isUpper = false) (h : OneCase lower cs) (h' : OneCase lower' cs) :
    lower = lower' :=
  ((oneCase_iff plain).mp h).1.symm.trans ((oneCase_iff plain').mp h').1

end LedgerGateway.Text
