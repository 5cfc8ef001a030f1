import LedgerGateway.Bytes

/-! Cutting a message into blocks and its octets into machine words, as the hash functions do. -/

namespace LedgerGateway.Hash

/-- Pieces of `size + 1` octets, in order; the last one may be shorter. -/
def pieces (size : Nat) (b : Bytes) : List Bytes :=
  if h : b = [] then [] else b.take (size + 1) :: pieces size (b.drop (size + 1))
termination_by b.length
decreasing_by
  have : 0 < b.length := List.length_pos_iff.mpr h
  simp only [List.length_drop]; omega

/-- The octets followed by as many zeros as bring their number to `width`. -/
def padded (width : Nat) (b : Bytes) : Bytes := b ++ List.replicate (width - b.length) 0

/-- The 64-bit word whose lowest octet comes first. -/
def word64LE (b : Bytes) : UInt64 := b.foldr (fun d w => (w <<< 8) ||| d.toUInt64) 0

/-- The 32-bit word whose highest octet comes first. -/
def word32BE (b : Bytes) : UInt32 := b.foldl (fun w d => (w <<< 8) ||| d.toUInt32) 0

/-- Eight octets, lowest first. -/
def octetsLE (w : UInt64) : Bytes :=
  [w.toUInt8, (w >>> 8).toUInt8, (w >>> 16).toUInt8, (w >>> 24).toUInt8,
   (w >>> 32).toUInt8, (w >>> 40).toUInt8, (w >>> 48).toUInt8, (w >>> 56).toUInt8]

/-- Four octets, highest first. -/
def octetsBE (w : UInt32) : Bytes :=
  [(w >>> 24).toUInt8, (w >>> 16).toUInt8, (w >>> 8).toUInt8, w.toUInt8]

/-- Rotation by an amount strictly between 0 and 64. -/
def rotateLeft64 (w n : UInt64) : UInt64 := (w <<< n) ||| (w >>> (64 - n))

/-- Rotation by an amount strictly between 0 and 32. -/
def rotateRight32 (w n : UInt32) : UInt32 := (w >>> n) ||| (w <<< (32 - n))

end LedgerGateway.Hash
