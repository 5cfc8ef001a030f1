import LedgerGateway.Hash.Words

/-! Keccak with a 32-octet result and the padding bit pattern `1…1` of the first submission, as the
account scheme of the chain uses it. -/

namespace LedgerGateway.Hash.Keccak

/-- Twenty-five lanes; lane `(x, y)` stands at `5 * y + x`. -/
abbrev State := Vector UInt64 25

def roundConstants : List UInt64 := [
  0x0000000000000001, 0x0000000000008082, 0x800000000000808a, 0x8000000080008000,
  0x000000000000808b, 0x0000000080000001, 0x8000000080008081, 0x8000000000008009,
  0x000000000000008a, 0x0000000000000088, 0x0000000080008009, 0x000000008000000a,
  0x000000008000808b, 0x800000000000008b, 0x8000000000008089, 0x8000000000008003,
  0x8000000000008002, 0x8000000000000080, 0x000000000000800a, 0x800000008000000a,
  0x8000000080008081, 0x8000000000008080, 0x0000000080000001, 0x8000000080008008]

/-- How far each lane is turned. -/
def offsets : Vector UInt64 25 := #v[
  0, 1, 62, 28, 27,
  36, 44, 6, 55, 20,
  3, 10, 43, 25, 39,
  41, 45, 15, 21, 8,
  18, 2, 61, 56, 14]

/-- A lane by its coordinates, which are taken modulo five. -/
def lane (s : State) (x y : Nat) : UInt64 :=
  s.get ⟨5 * (y % 5) + x % 5, by omega⟩

/-- One round: column parities, turned and moved lanes, the row rule, and the round constant. -/
def round (s : State) (constant : UInt64) : State :=
  let parity : Vector UInt64 5 := Vector.ofFn fun x =>
    lane s x 0 ^^^ lane s x 1 ^^^ lane s x 2 ^^^ lane s x 3 ^^^ lane s x 4
  let tilt : Vector UInt64 5 := Vector.ofFn fun x =>
    parity.get ⟨(x.val + 4) % 5, by omega⟩ ^^^
      rotateLeft64 (parity.get ⟨(x.val + 1) % 5, by omega⟩) 1
  let mixed : State := Vector.ofFn fun i => s[i] ^^^ tilt.get ⟨i.val % 5, by omega⟩
  -- lane `(x, y)` of the moved state comes from `(x + 3 * y, x)`
  let moved : State := Vector.ofFn fun i =>
    let source := 5 * (i.val % 5) + (i.val % 5 + 3 * (i.val / 5)) % 5
    have : source < 25 := by omega
    if source = 0 then mixed[source] else rotateLeft64 mixed[source] offsets[source]
  let chosen : State := Vector.ofFn fun i =>
    let x := i.val % 5
    let y := i.val / 5
    lane moved x y ^^^ (~~~ lane moved (x + 1) y &&& lane moved (x + 2) y)
  chosen.set 0 (chosen[0] ^^^ constant)

def permute (s : State) : State := roundConstants.foldl round s

/-- The number of message octets in a block. -/
def rate : Nat := 136

def absorb (s : State) (block : Bytes) : State :=
  permute (Vector.ofFn fun i =>
    if i.val < 17 then s[i] ^^^ word64LE ((block.drop (8 * i.val)).take 8) else s[i])

/-- The message with a first padding octet `01` and a last one `80`, which may be the same octet. -/
def padding (message : Bytes) : Bytes :=
  let gap := rate - message.length % rate
  if gap = 1 then message ++ [0x81] else message ++ 0x01 :: (List.replicate (gap - 2) 0 ++ [0x80])

def hash (message : Bytes) : Digest :=
  let s := (pieces (rate - 1) (padding message)).foldl absorb (Vector.replicate 25 0)
  ⟨octetsLE s[0] ++ octetsLE s[1] ++ octetsLE s[2] ++ octetsLE s[3], rfl⟩

end LedgerGateway.Hash.Keccak
