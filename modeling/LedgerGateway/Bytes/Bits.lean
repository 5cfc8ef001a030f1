import LedgerGateway.Bytes

/-! Numbers as bit strings, highest bit first, and the regrouping of octets into smaller groups. -/

namespace LedgerGateway.Bits

/-- The low `width` bits of a number. -/
def ofNat : (width : Nat) → Nat → List Bool
  | 0, _ => []
  | width + 1, n => ofNat width (n / 2) ++ [n % 2 == 1]

/-- The number that the bits write. -/
def toNat (bits : List Bool) : Nat := bits.foldl (fun n b => 2 * n + b.toNat) 0

@[simp] theorem length_ofNat (width n : Nat) : (ofNat width n).length = width := by
  induction width generalizing n with
  | zero => rfl
  | succ width ih => simp [ofNat, ih]

def ofBytes (b : Bytes) : List Bool := b.flatMap fun d => ofNat 8 d.toNat

/-- The whole groups of `size + 1` bits, in order; bits left over at the end are dropped. -/
def wholeGroups (size : Nat) (bits : List Bool) : List (List Bool) :=
  if bits.length ≤ size then [] else bits.take (size + 1) :: wholeGroups size (bits.drop (size + 1))
termination_by bits.length
decreasing_by simp only [List.length_drop]; omega

/-- The octets that whole groups of eight bits write. -/
def toBytes (bits : List Bool) : Bytes := (wholeGroups 7 bits).map fun g => UInt8.ofNat (toNat g)

end LedgerGateway.Bits
