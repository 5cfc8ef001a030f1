import LedgerGateway.Wire
import LedgerGateway.Proofs.Outcome

/-!
# Numbers, keys and lengths on the wire

A number in base 128 is read back whatever stands behind it, up to 64 bits; a larger one is refused.
Keys always fit, and octets fit when a number can tell their length.
-/

namespace LedgerGateway.Wire

open Outcome

/-- What `left + 1` octets may hold: seven bits each, but only one in the last. -/
def capacity : Nat → Nat
  | 0 => 2
  | left + 1 => 128 * capacity left

theorem two_le_capacity (left : Nat) : 2 ≤ capacity left := by
  induction left with
  | zero => exact Nat.le_refl _
  | succ left ih =>
    rw [capacity]
    omega

theorem varintWithin_last {n : Nat} (small : n < 128) (left : Nat) (rest : Bytes) :
    varintWithin (left + 1) (UInt8.ofNat n :: rest) =
      if left = 0 ∧ 1 < n then fail .badVarint else .ok (n, rest) := by
  have octet : (UInt8.ofNat n).toNat = n :=
    UInt8.toNat_ofNat_of_lt (by simp only [UInt8.size]; omega)
  rw [varintWithin, octet, if_pos small]

theorem varintWithin_more {n : Nat} (small : n < 128) (left : Nat) (b : Bytes) :
    varintWithin (left + 1) (UInt8.ofNat (n + 128) :: b) =
      (varintWithin left b).map fun p => (n + 128 * p.1, p.2) := by
  have octet : (UInt8.ofNat (n + 128)).toNat = n + 128 :=
    UInt8.toNat_ofNat_of_lt (by simp only [UInt8.size]; omega)
  rw [varintWithin, octet, if_neg (by omega), Nat.add_sub_cancel]
  cases varintWithin left b <;> rfl

/-- A number is read back when it fits, and refused when it does not. -/
theorem varintWithin_writeVarint (left n : Nat) (rest : Bytes) :
    varintWithin (left + 1) (writeVarint n ++ rest) =
      if n < capacity left then .ok (n, rest) else fail .badVarint := by
  have wide := two_le_capacity left
  -- every octet but the last takes seven bits off the number and off the capacity
  induction left generalizing n with
  | zero =>
    rw [writeVarint, capacity]
    by_cases small : n < 128
    · rw [if_pos small, List.singleton_append, varintWithin_last small]
      by_cases fits : n < 2
      · rw [if_neg (by omega), if_pos fits]
      · rw [if_pos (by omega), if_neg fits]
    · rw [if_neg small, List.cons_append, varintWithin_more (Nat.mod_lt _ (by decide)),
        if_neg (by omega)]
      rfl
  | succ left ih =>
    have narrower := two_le_capacity left
    rw [writeVarint, capacity]
    by_cases small : n < 128
    · rw [if_pos small, List.singleton_append, varintWithin_last small, if_neg (by omega),
        if_pos (by omega)]
    · rw [if_neg small, List.cons_append, varintWithin_more (Nat.mod_lt _ (by decide)),
        ih _ narrower]
      by_cases fits : n / 128 < capacity left
      · rw [if_pos fits, if_pos (by omega), Except.map, Nat.mod_add_div]
      · rw [if_neg fits, if_neg (by omega)]
        rfl

theorem readVarint_writeVarint (n : Nat) (rest : Bytes) :
    readVarint (writeVarint n ++ rest) =
      if n < UInt64.size then .ok (n, rest) else fail .badVarint :=
  varintWithin_writeVarint 9 n rest

theorem readVarint_of_lt {n : Nat} (h : n < UInt64.size) (rest : Bytes) :
    readVarint (writeVarint n ++ rest) = .ok (n, rest) := by
  rw [readVarint_writeVarint, if_pos h]

theorem writeVarint_ne_nil (n : Nat) : writeVarint n ≠ [] := by
  rw [writeVarint]
  split <;> simp

/-- A key has a number, and together with the form it has 32 bits. -/
structure Key.Writable (k : Key) : Prop where
  numbered : k.number ≠ 0
  small : k.number * 8 + 5 < UInt32.size

theorem Form.ofCode?_code (f : Form) : Form.ofCode? f.code = some f := by
  cases f <;> rfl

theorem Form.code_le (f : Form) : f.code ≤ 5 := by
  cases f <;> decide

theorem readKey_writeKey {k : Key} (h : k.Writable) (rest : Bytes) :
    readKey (writeKey k ++ rest) = .ok (k, rest) := by
  have code := k.form.code_le
  have small := h.small
  have numbered := h.numbered
  have word : k.number * 8 + k.form.code < UInt64.size := by
    have : UInt32.size < UInt64.size := by decide
    omega
  have low : (k.number * 8 + k.form.code) % 8 = k.form.code := by omega
  have high : (k.number * 8 + k.form.code) / 8 = k.number := by omega
  rw [readKey, writeKey, readVarint_of_lt word]
  simp only [bind, Except.bind, low, high, Form.ofCode?_code, if_neg numbered]
  rw [if_neg (by omega)]
  rfl

theorem readDelimited_writeDelimited {b : Bytes} (h : b.length < UInt64.size) (rest : Bytes) :
    readDelimited (writeDelimited b ++ rest) = .ok (b, rest) := by
  rw [readDelimited, writeDelimited, List.append_assoc, readVarint_of_lt h]
  simp only [bind, Except.bind, List.length_append, List.take_left, List.drop_left]
  rw [if_neg (by omega)]
  rfl

/-- Octets that no length can count are refused. -/
theorem readDelimited_refused {b : Bytes} (h : ¬ b.length < UInt64.size) (rest : Bytes) :
    readDelimited (writeDelimited b ++ rest) = fail .badVarint := by
  rw [readDelimited, writeDelimited, List.append_assoc, readVarint_writeVarint, if_neg h]
  rfl

end LedgerGateway.Wire
