import Mathlib.Algebra.Group.Nat.Defs
import Mathlib.Data.List.Induction
import LedgerGateway.Bytes.Bits

/-! What is written in a fixed number of octets or bits is read back modulo a power of the base. -/

namespace LedgerGateway

namespace Bytes

theorem toNat_append_singleton (b : Bytes) (d : UInt8) :
    toNat (b ++ [d]) = toNat b * 256 + d.toNat := by
  simp [toNat]

theorem toNat_ofNat (width n : Nat) : toNat (ofNat width n) = n % 256 ^ width := by
  induction width generalizing n with
  | zero => simp [ofNat, toNat, Nat.mod_one]
  | succ width ih =>
    have low : (UInt8.ofNat n).toNat = n % 256 := by simp
    rw [ofNat, toNat_append_singleton, ih, low, Nat.pow_succ', Nat.mod_mul]
    omega

/-- A number below `256 ^ width` is read back from its octets. -/
theorem toNat_ofNat_of_lt {width n : Nat} (h : n < 256 ^ width) : toNat (ofNat width n) = n := by
  rw [toNat_ofNat, Nat.mod_eq_of_lt h]

/-- Octets are the octets of their number, if as many are written. -/
theorem ofNat_toNat (b : Bytes) : ofNat b.length (toNat b) = b := by
  induction b using List.reverseRecOn with
  | nil => rfl
  | append_singleton b d ih =>
    have small := d.toNat_lt
    have high : (toNat b * 256 + d.toNat) / 256 = toNat b := by omega
    have low : UInt8.ofNat (toNat b * 256 + d.toNat) = d := by
      apply UInt8.toNat_inj.mp
      rw [UInt8.toNat_ofNat']
      omega
    rw [List.length_append, List.length_singleton, ofNat, toNat_append_singleton, high, low, ih]

end Bytes

namespace Bits

theorem toNat_append_singleton (bits : List Bool) (b : Bool) :
    toNat (bits ++ [b]) = 2 * toNat bits + b.toNat := by
  simp [toNat]

theorem toNat_ofNat (width n : Nat) : toNat (ofNat width n) = n % 2 ^ width := by
  induction width generalizing n with
  | zero => simp [ofNat, toNat, Nat.mod_one]
  | succ width ih =>
    have low : (n % 2 == 1).toNat = n % 2 := by
      rcases Nat.mod_two_eq_zero_or_one n with h | h <;> simp [h]
    rw [ofNat, toNat_append_singleton, ih, low, Nat.pow_succ', Nat.mod_mul]
    omega

end Bits

end LedgerGateway
