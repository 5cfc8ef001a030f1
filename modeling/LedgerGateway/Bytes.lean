/-! Octet strings and the numbers they write, most significant octet first. -/

namespace LedgerGateway

/-- Octets in the order in which they are written. -/
abbrev Bytes := List UInt8

namespace Bytes

/-- The number that the octets write in base 256. -/
def toNat (b : Bytes) : Nat := b.foldl (fun n d => n * 256 + d.toNat) 0

/-- The low `width` octets of a number. -/
def ofNat : (width : Nat) → Nat → Bytes
  | 0, _ => []
  | width + 1, n => ofNat width (n / 256) ++ [UInt8.ofNat n]

@[simp] theorem length_ofNat (width n : Nat) : (ofNat width n).length = width := by
  induction width generalizing n with
  | zero => rfl
  | succ width ih => simp [ofNat, ih]

/-- The octets of a text in UTF-8. -/
def ofText (s : String) : Bytes := s.toUTF8.data.toList

/-- The text whose UTF-8 form the octets are, if they are one. -/
def toText? (b : Bytes) : Option String := String.fromUTF8? ⟨b.toArray⟩

end Bytes

/-- A string of exactly `n` octets. -/
structure Octets (n : Nat) where
  bytes : Bytes
  length_eq : bytes.length = n
  deriving DecidableEq

namespace Octets

theorem ext_bytes {n : Nat} {a b : Octets n} (h : a.bytes = b.bytes) : a = b := by
  cases a; cases b; cases h; rfl

/-- The octets as a string of the wanted length, or nothing for any other length. -/
def ofBytes? (n : Nat) (b : Bytes) : Option (Octets n) :=
  if h : b.length = n then some ⟨b, h⟩ else none

theorem ofBytes?_bytes {n : Nat} (o : Octets n) : ofBytes? n o.bytes = some o := by
  simp [ofBytes?, o.length_eq]

/-- The low `n` octets of a number. -/
def ofNat (n value : Nat) : Octets n := ⟨Bytes.ofNat n value, Bytes.length_ofNat n value⟩

end Octets

/-- A 32-octet hash value. -/
abbrev Digest := Octets 32

end LedgerGateway
