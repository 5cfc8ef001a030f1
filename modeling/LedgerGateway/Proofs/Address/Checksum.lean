import LedgerGateway.Address.Bech32
import Mathlib.Algebra.Group.Nat.Defs

/-!
# The checksum of an address

The checksum is a remainder that the groups leave one after the other. A step of it keeps
differences: two states differ afterwards by what a step makes of their difference (`step_xor`). A
difference that a step need not reduce is only moved, so the last six groups change the state by
what they write, and the written checksum turns it into the one that is asked for
(`checked_checksum`). No other six groups do, since six groups are known by the number that they
write (`checked_iff`).
-/

namespace LedgerGateway.Bech32

/-- A value as the checksum sees it. -/
def word (v : Fin 32) : UInt32 := UInt32.ofNat v.val

/-- The number that values write after the number `n`, five bits each. -/
def packed (n : Nat) (values : List (Fin 32)) : Nat := values.foldl (fun n v => n * 32 + v.val) n

/-- Adds the remainders that the high bits of a state select. -/
def reduce (top s : UInt32) : UInt32 :=
  generators.zipIdx.foldl
    (fun s p => if (top >>> UInt32.ofNat p.2) &&& 1 = 1 then s ^^^ p.1 else s) s

theorem step_eq (s v : UInt32) : step s v = reduce (s >>> 25) (((s &&& 0x1ffffff) <<< 5) ^^^ v) :=
  rfl

/-- What the bits of a state add to the remainder where this generator is chosen. -/
def added (top : UInt32) (p : UInt32 × Nat) : UInt32 :=
  if (top >>> UInt32.ofNat p.2) &&& 1 = 1 then p.1 else 0

theorem reduce_eq (top s : UInt32) :
    reduce top s = (generators.zipIdx.map (added top)).foldl (· ^^^ ·) s := by
  rw [reduce, List.foldl_map]
  congr 1
  funext s p
  by_cases chosen : (top >>> UInt32.ofNat p.2) &&& 1 = 1
  · rw [if_pos chosen, added, if_pos chosen]
  · rw [if_neg chosen, added, if_neg chosen, UInt32.xor_zero]

theorem xor_and (x y mask : UInt32) : (x ^^^ y) &&& mask = (x &&& mask) ^^^ (y &&& mask) := by
  apply UInt32.toNat_inj.mp
  simp only [UInt32.toNat_and, UInt32.toNat_xor, Nat.and_xor_distrib_right]

theorem and_one_cases (x : UInt32) : x &&& 1 = 0 ∨ x &&& 1 = 1 := by
  have bit : (x &&& 1).toNat = x.toNat % 2 := by
    rw [UInt32.toNat_and]
    exact Nat.and_one_is_mod _
  rcases Nat.mod_two_eq_zero_or_one x.toNat with low | low
  · exact .inl (UInt32.toNat_inj.mp (bit.trans low))
  · exact .inr (UInt32.toNat_inj.mp (bit.trans low))

/-- A generator that both choose is added twice, which is not at all. -/
theorem added_xor (top top' : UInt32) (p : UInt32 × Nat) :
    added (top ^^^ top') p = added top p ^^^ added top' p := by
  have bits : ((top ^^^ top') >>> UInt32.ofNat p.2) &&& 1 =
      ((top >>> UInt32.ofNat p.2) &&& 1) ^^^ ((top' >>> UInt32.ofNat p.2) &&& 1) := by
    rw [UInt32.shiftRight_xor, xor_and]
  simp only [added, bits]
  rcases and_one_cases (top >>> UInt32.ofNat p.2) with h | h <;>
    rcases and_one_cases (top' >>> UInt32.ofNat p.2) with h' | h' <;> simp [h, h']

theorem reduce_xor (top top' s d : UInt32) :
    reduce (top ^^^ top') (s ^^^ d) = reduce top s ^^^ reduce top' d := by
  simp only [reduce_eq]
  induction generators.zipIdx generalizing s d with
  | nil => rfl
  | cons p all ih =>
    have first : (s ^^^ d) ^^^ added (top ^^^ top') p =
        (s ^^^ added top p) ^^^ (d ^^^ added top' p) := by
      rw [added_xor]
      ac_rfl
    simp only [List.map_cons, List.foldl_cons]
    rw [first, ih]

theorem reduce_zero (s : UInt32) : reduce 0 s = s := rfl

theorem reduce_lt {top s : UInt32} (h : s.toNat < 2 ^ 30) : (reduce top s).toNat < 2 ^ 30 := by
  have small : ∀ p ∈ generators.zipIdx, p.1.toNat < 2 ^ 30 := by decide
  unfold reduce
  generalize generators.zipIdx = all at small
  induction all generalizing s with
  | nil => exact h
  | cons p all ih =>
    obtain ⟨hp, hall⟩ := List.forall_mem_cons.mp small
    rw [List.foldl_cons]
    by_cases selected : (top >>> UInt32.ofNat p.2) &&& 1 = 1
    · rw [if_pos selected]
      exact ih (by rw [UInt32.toNat_xor]; exact Nat.xor_lt_two_pow h hp) hall
    · rw [if_neg selected]
      exact ih h hall

/-- Five bits behind a number are added to it. -/
theorem mul_xor_of_lt (n : Nat) {c : Nat} (h : c < 2 ^ 5) : n * 2 ^ 5 ^^^ c = n * 2 ^ 5 + c := by
  apply Nat.eq_of_testBit_eq
  intro i
  rw [Nat.mul_comm, Nat.testBit_two_pow_mul_add n h, Nat.testBit_xor, Nat.testBit_two_pow_mul]
  by_cases low : i < 5
  · rw [if_pos low, decide_eq_false (by omega)]
    simp
  · have none : c.testBit i = false :=
      Nat.testBit_lt_two_pow (Nat.lt_of_lt_of_le h (Nat.pow_le_pow_right (by decide) (by omega)))
    rw [if_neg low, none, decide_eq_true (by omega)]
    simp

/-- A number of 25 bits is all low bits. -/
theorem low_bits {n : Nat} (h : n < 2 ^ 25) :
    UInt32.ofNat n >>> 25 = 0 ∧ UInt32.ofNat n &&& 0x1ffffff = UInt32.ofNat n := by
  have number : (UInt32.ofNat n).toNat = n :=
    UInt32.toNat_ofNat_of_lt (by simp only [UInt32.size]; omega)
  constructor
  · apply UInt32.toNat_inj.mp
    rw [UInt32.toNat_shiftRight, number, Nat.shiftRight_eq_div_pow]
    exact Nat.div_eq_of_lt h
  · apply UInt32.toNat_inj.mp
    rw [UInt32.toNat_and, number]
    exact (Nat.and_two_pow_sub_one_eq_mod n 25).trans (Nat.mod_eq_of_lt h)

/-- Moving 25 bits up makes room for one more value. -/
theorem shiftLeft_xor_word {n : Nat} (h : n < 2 ^ 25) (v : Fin 32) :
    (UInt32.ofNat n <<< 5) ^^^ word v = UInt32.ofNat (n * 32 + v.val) := by
  have small := v.isLt
  have state : (UInt32.ofNat n).toNat = n :=
    UInt32.toNat_ofNat_of_lt (by simp only [UInt32.size]; omega)
  have value : (word v).toNat = v.val :=
    UInt32.toNat_ofNat_of_lt (by simp only [UInt32.size]; omega)
  have both : (UInt32.ofNat (n * 32 + v.val)).toNat = n * 32 + v.val :=
    UInt32.toNat_ofNat_of_lt (by simp only [UInt32.size]; omega)
  apply UInt32.toNat_inj.mp
  rw [UInt32.toNat_xor, UInt32.toNat_shiftLeft, state, value, both, Nat.shiftLeft_eq,
    show (5 : UInt32).toNat % 32 = 5 from rfl, Nat.mod_eq_of_lt (by omega)]
  exact mul_xor_of_lt n small

/-- A step keeps differences, of states and of values. -/
theorem step_xor (s d v w : UInt32) : step (s ^^^ d) (v ^^^ w) = step s v ^^^ step d w := by
  have moved : ((s ^^^ d) &&& 0x1ffffff) <<< 5 ^^^ (v ^^^ w) =
      ((s &&& 0x1ffffff) <<< 5 ^^^ v) ^^^ ((d &&& 0x1ffffff) <<< 5 ^^^ w) := by
    rw [xor_and, UInt32.shiftLeft_xor]
    ac_rfl
  rw [step_eq, UInt32.shiftRight_xor, moved, reduce_xor]
  rfl

/-- A state of 25 bits moves up by five bits, and the next value takes their place. -/
theorem step_low {n : Nat} (h : n < 2 ^ 25) (v : Fin 32) :
    step (UInt32.ofNat n) (word v) = UInt32.ofNat (n * 32 + v.val) := by
  obtain ⟨none, low⟩ := low_bits h
  rw [step_eq, none, low, shiftLeft_xor_word h, reduce_zero]

/-- Values behind a state that are fewer than its 30 bits end up in it as they are. -/
theorem foldl_step_xor (s : UInt32) (values : List (Fin 32)) {n k : Nat} (h : n < 32 ^ k)
    (fits : k + values.length ≤ 6) :
    (values.map word).foldl step (s ^^^ UInt32.ofNat n) =
      (List.replicate values.length 0).foldl step s ^^^ UInt32.ofNat (packed n values) := by
  -- `n` is made of the `k` values before, and only six of them fit above each other
  induction values generalizing s n k with
  | nil => rfl
  | cons v values ih =>
    rw [List.length_cons] at fits
    have small := v.isLt
    have low : n < 2 ^ 25 :=
      Nat.lt_of_lt_of_le h (Nat.pow_le_pow_right (n := 32) (by decide) (show k ≤ 5 by omega))
    have next : n * 32 + v.val < 32 ^ (k + 1) := by
      rw [Nat.pow_succ]
      omega
    have first : step (s ^^^ UInt32.ofNat n) (word v) =
        step s 0 ^^^ UInt32.ofNat (n * 32 + v.val) := by
      rw [← step_low low, ← step_xor, UInt32.zero_xor]
    rw [List.map_cons, List.foldl_cons, first, ih (step s 0) next (by omega)]
    rfl

/-- Six groups of five bits write the number that they are taken from. -/
theorem packed_groups {n : Nat} (h : n < 2 ^ 30) :
    packed 0 (([25, 20, 15, 10, 5, 0] : List Nat).map fun shift =>
      Fin.ofNat 32 (n / 2 ^ shift)) = n := by
  simp only [packed, List.map_cons, List.map_nil, List.foldl_cons, List.foldl_nil, Fin.val_ofNat]
  omega

theorem residue_append (values more : List UInt32) :
    residue (values ++ more) = more.foldl step (residue values) :=
  List.foldl_append

theorem residue_zeros_lt (values : List UInt32) :
    (residue (values ++ List.replicate 6 0)).toNat < 2 ^ 30 := by
  have last : List.replicate 6 (0 : UInt32) = List.replicate 5 0 ++ [0] := rfl
  rw [last, ← List.append_assoc, residue_append, List.foldl_cons, List.foldl_nil, step_eq,
    UInt32.xor_zero]
  apply reduce_lt
  rw [UInt32.toNat_shiftLeft, UInt32.toNat_and, Nat.shiftLeft_eq]
  have low := Nat.and_two_pow_sub_one_eq_mod (residue (values ++ List.replicate 5 0)).toNat 25
  rw [show (0x1ffffff : UInt32).toNat = 2 ^ 25 - 1 from rfl, low,
    show (5 : UInt32).toNat % 32 = 5 from rfl]
  omega

/-- The number that a checksum writes: what is left with zeros in its place, and the constant
of the variant. -/
def remainder (variant : Variant) (head : List Char) (data : List (Fin 32)) : UInt32 :=
  residue (expandedHead head ++ data.map word ++ List.replicate 6 0) ^^^ variant.residue

theorem length_checksum (variant : Variant) (head : List Char) (data : List (Fin 32)) :
    (checksum variant head data).length = 6 := rfl

theorem packed_checksum (variant : Variant) (head : List Char) (data : List (Fin 32)) :
    packed 0 (checksum variant head data) = (remainder variant head data).toNat := by
  have small : (remainder variant head data).toNat < 2 ^ 30 := by
    rw [remainder, UInt32.toNat_xor]
    exact Nat.xor_lt_two_pow (residue_zeros_lt _) (by cases variant <;> decide)
  have groups : checksum variant head data = ([25, 20, 15, 10, 5, 0] : List Nat).map fun shift =>
      Fin.ofNat 32 ((remainder variant head data).toNat / 2 ^ shift) := by
    simp only [checksum, List.map_cons, List.map_nil, UInt32.toNat_shiftRight,
      Nat.shiftRight_eq_div_pow]
    rfl
  rw [groups, packed_groups small]

/-- Six values behind head and data leave the constant of a variant when they write the
remainder. -/
theorem checked_append {variant : Variant} {head : List Char} {data six : List (Fin 32)}
    (length : six.length = 6) :
    Checked variant head (data ++ six) ↔
      UInt32.ofNat (packed 0 six) = remainder variant head data := by
  have final := foldl_step_xor (residue (expandedHead head ++ data.map word)) six (n := 0) (k := 0)
    (by decide) (by omega)
  rw [length, show UInt32.ofNat 0 = 0 from rfl, UInt32.xor_zero] at final
  have left : residue (expandedHead head ++ (data ++ six).map word) =
      residue (expandedHead head ++ data.map word ++ List.replicate 6 0) ^^^
        UInt32.ofNat (packed 0 six) := by
    rw [List.map_append, ← List.append_assoc, residue_append, final,
      residue_append _ (List.replicate 6 0)]
  change residue (expandedHead head ++ (data ++ six).map word) = variant.residue ↔ _
  rw [left, remainder]
  generalize residue _ = zeros
  constructor
  · intro constant
    rw [← constant, ← UInt32.xor_assoc, UInt32.xor_self, UInt32.zero_xor]
  · intro number
    rw [number, ← UInt32.xor_assoc, UInt32.xor_self, UInt32.zero_xor]

/-- Behind any head and data the checksum leaves the constant of its variant. -/
theorem checked_checksum (variant : Variant) (head : List Char) (data : List (Fin 32)) :
    Checked variant head (data ++ checksum variant head data) := by
  rw [checked_append (length_checksum variant head data), packed_checksum, UInt32.ofNat_toNat]

theorem packed_lt {n k : Nat} (values : List (Fin 32)) (h : n < 32 ^ k) :
    packed n values < 32 ^ (k + values.length) := by
  induction values generalizing n k with
  | nil => exact h
  | cons v values ih =>
    have small := v.isLt
    have next : n * 32 + v.val < 32 ^ (k + 1) := by
      rw [Nat.pow_succ]
      omega
    rw [List.length_cons, Nat.add_comm values.length, ← Nat.add_assoc]
    exact ih next

/-- Equally many values that write the same number are the same. -/
theorem packed_inj {n m : Nat} {xs ys : List (Fin 32)} (lengths : xs.length = ys.length)
    (same : packed n xs = packed m ys) : n = m ∧ xs = ys := by
  induction xs generalizing n m ys with
  | nil =>
    rw [List.length_eq_zero_iff.mp lengths.symm] at same ⊢
    exact ⟨same, rfl⟩
  | cons x xs ih =>
    obtain ⟨y, ys, rfl⟩ := List.exists_cons_of_length_eq_add_one lengths.symm
    obtain ⟨numbers, rfl⟩ :=
      ih (n := n * 32 + x.val) (m := m * 32 + y.val) (Nat.succ.inj lengths) same
    have hx := x.isLt
    have hy := y.isLt
    have values : x = y := Fin.ext (by omega)
    exact ⟨by omega, by rw [values]⟩

/-- No other six values than the checksum leave the constant of a variant. -/
theorem checked_iff {variant : Variant} {head : List Char} {data six : List (Fin 32)}
    (length : six.length = 6) :
    Checked variant head (data ++ six) ↔ six = checksum variant head data := by
  constructor
  · intro checked
    have small : packed 0 six < 32 ^ 6 := by
      rw [← length, ← Nat.zero_add six.length]
      exact packed_lt six (by decide)
    have number := congrArg UInt32.toNat ((checked_append length).mp checked)
    rw [UInt32.toNat_ofNat', Nat.mod_eq_of_lt (by omega), ← packed_checksum] at number
    exact (packed_inj (length.trans (length_checksum variant head data).symm) number).2
  · rintro rfl
    exact checked_checksum variant head data

/-- The checksums of the two variants differ. -/
theorem checksum_inj {variant variant' : Variant} {head : List Char} {data : List (Fin 32)}
    (same : checksum variant head data = checksum variant' head data) : variant = variant' := by
  have written : Checked variant' head (data ++ checksum variant head data) :=
    same ▸ checked_checksum variant' head data
  have constants : variant.residue = variant'.residue :=
    (checked_checksum variant head data).symm.trans written
  revert constants
  cases variant <;> cases variant' <;> decide

end LedgerGateway.Bech32
