import LedgerGateway.Hash.Words

/-! BLAKE2b without a key and with a 32-octet result. -/

namespace LedgerGateway.Hash.Blake2b

/-- The initial chaining words, which are also the constant half of the working state. -/
def initial : Vector UInt64 8 := #v[
  0x6a09e667f3bcc908, 0xbb67ae8584caa73b, 0x3c6ef372fe94f82b, 0xa54ff53a5f1d36f1,
  0x510e527fade682d1, 0x9b05688c2b3e6c1f, 0x1f83d9abfb41bd6b, 0x5be0cd19137e2179]

/-- The message word schedule of ten rounds; rounds ten and eleven repeat the first two. -/
def schedule : List (Vector (Fin 16) 16) := [
  #v[0, 1, 2, 3, 4, 5, 6, 7, 8, 9, 10, 11, 12, 13, 14, 15],
  #v[14, 10, 4, 8, 9, 15, 13, 6, 1, 12, 0, 2, 11, 7, 5, 3],
  #v[11, 8, 12, 0, 5, 2, 15, 13, 10, 14, 3, 6, 7, 1, 9, 4],
  #v[7, 9, 3, 1, 13, 12, 11, 14, 2, 6, 5, 10, 4, 0, 15, 8],
  #v[9, 0, 5, 7, 2, 4, 10, 15, 14, 1, 11, 12, 6, 8, 3, 13],
  #v[2, 12, 6, 10, 0, 11, 8, 3, 4, 13, 7, 5, 15, 14, 1, 9],
  #v[12, 5, 1, 15, 14, 13, 4, 10, 0, 7, 6, 3, 9, 2, 8, 11],
  #v[13, 11, 7, 14, 12, 1, 3, 9, 5, 0, 15, 4, 8, 6, 2, 10],
  #v[6, 15, 14, 9, 11, 3, 0, 8, 12, 2, 13, 7, 1, 4, 10, 5],
  #v[10, 2, 8, 4, 7, 6, 1, 5, 15, 11, 9, 14, 3, 12, 13, 0]]

abbrev State := Vector UInt64 16

/-- Mixes two message words into four words of the state. -/
def mix (v : State) (a b c d : Fin 16) (x y : UInt64) : State :=
  let va := v[a] + v[b] + x
  let vd := rotateLeft64 (v[d] ^^^ va) 32
  let vc := v[c] + vd
  let vb := rotateLeft64 (v[b] ^^^ vc) 40
  let va := va + vb + y
  let vd := rotateLeft64 (vd ^^^ va) 48
  let vc := vc + vd
  let vb := rotateLeft64 (vb ^^^ vc) 1
  (((v.set a va).set b vb).set c vc).set d vd

/-- Columns, then diagonals. -/
def round (m : State) (v : State) (s : Vector (Fin 16) 16) : State :=
  let v := mix v 0 4 8 12 m[s[0]] m[s[1]]
  let v := mix v 1 5 9 13 m[s[2]] m[s[3]]
  let v := mix v 2 6 10 14 m[s[4]] m[s[5]]
  let v := mix v 3 7 11 15 m[s[6]] m[s[7]]
  let v := mix v 0 5 10 15 m[s[8]] m[s[9]]
  let v := mix v 1 6 11 12 m[s[10]] m[s[11]]
  let v := mix v 2 7 8 13 m[s[12]] m[s[13]]
  mix v 3 4 9 14 m[s[14]] m[s[15]]

/-- Folds a block into the chaining words; `count` is the number of message octets up to and
including the block, of which messages here never reach the high half. -/
def compress (h : Vector UInt64 8) (block : Bytes) (count : Nat) (last : Bool) : Vector UInt64 8 :=
  let m : State := Vector.ofFn fun i => word64LE ((block.drop (8 * i.val)).take 8)
  let v : State := h ++ initial
  let v := v.set 12 (v[12] ^^^ UInt64.ofNat count)
  let v := if last then v.set 14 (~~~ v[14]) else v
  let v := (schedule ++ schedule.take 2).foldl (round m) v
  Vector.ofFn fun i => h[i] ^^^ v[i.val] ^^^ v[i.val + 8]

/-- Folds all blocks; the last one, which is empty only for the empty message, is marked. -/
def absorb (h : Vector UInt64 8) (count : Nat) : List Bytes → Vector UInt64 8
  | [] => compress h (padded 128 []) count true
  | [block] => compress h (padded 128 block) (count + block.length) true
  | block :: rest => absorb (compress h block (count + 128) false) (count + 128) rest

/-- The first chaining word carries the result length, the absent key and the tree shape. -/
def hash (message : Bytes) : Digest :=
  let start := initial.set 0 (initial[0] ^^^ 0x01010020)
  let h := absorb start 0 (pieces 127 message)
  ⟨octetsLE h[0] ++ octetsLE h[1] ++ octetsLE h[2] ++ octetsLE h[3], rfl⟩

end LedgerGateway.Hash.Blake2b
