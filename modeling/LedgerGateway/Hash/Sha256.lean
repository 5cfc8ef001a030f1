import LedgerGateway.Hash.Words

/-! SHA-256 and the keyed code built on it, which the deterministic signature nonce needs. -/

namespace LedgerGateway.Hash.Sha256

/-- The eight words that are worked on. -/
structure State where
  a : UInt32
  b : UInt32
  c : UInt32
  d : UInt32
  e : UInt32
  f : UInt32
  g : UInt32
  h : UInt32

namespace State

def initial : State :=
  ⟨0x6a09e667, 0xbb67ae85, 0x3c6ef372, 0xa54ff53a, 0x510e527f, 0x9b05688c, 0x1f83d9ab, 0x5be0cd19⟩

/-- One round with a word of the message and a constant. -/
def round (s : State) (word constant : UInt32) : State :=
  let s1 := rotateRight32 s.e 6 ^^^ rotateRight32 s.e 11 ^^^ rotateRight32 s.e 25
  let choice := (s.e &&& s.f) ^^^ (~~~ s.e &&& s.g)
  let t1 := s.h + s1 + choice + constant + word
  let s0 := rotateRight32 s.a 2 ^^^ rotateRight32 s.a 13 ^^^ rotateRight32 s.a 22
  let majority := (s.a &&& s.b) ^^^ (s.a &&& s.c) ^^^ (s.b &&& s.c)
  ⟨t1 + (s0 + majority), s.a, s.b, s.c, s.d + t1, s.e, s.f, s.g⟩

/-- The sums word by word. -/
def add (s t : State) : State :=
  ⟨s.a + t.a, s.b + t.b, s.c + t.c, s.d + t.d, s.e + t.e, s.f + t.f, s.g + t.g, s.h + t.h⟩

def octets (s : State) : Bytes :=
  octetsBE s.a ++ octetsBE s.b ++ octetsBE s.c ++ octetsBE s.d ++
    octetsBE s.e ++ octetsBE s.f ++ octetsBE s.g ++ octetsBE s.h

end State

def roundConstants : List UInt32 := [
  0x428a2f98, 0x71374491, 0xb5c0fbcf, 0xe9b5dba5, 0x3956c25b, 0x59f111f1, 0x923f82a4, 0xab1c5ed5,
  0xd807aa98, 0x12835b01, 0x243185be, 0x550c7dc3, 0x72be5d74, 0x80deb1fe, 0x9bdc06a7, 0xc19bf174,
  0xe49b69c1, 0xefbe4786, 0x0fc19dc6, 0x240ca1cc, 0x2de92c6f, 0x4a7484aa, 0x5cb0a9dc, 0x76f988da,
  0x983e5152, 0xa831c66d, 0xb00327c8, 0xbf597fc7, 0xc6e00bf3, 0xd5a79147, 0x06ca6351, 0x14292967,
  0x27b70a85, 0x2e1b2138, 0x4d2c6dfc, 0x53380d13, 0x650a7354, 0x766a0abb, 0x81c2c92e, 0x92722c85,
  0xa2bfe8a1, 0xa81a664b, 0xc24b8b70, 0xc76c51a3, 0xd192e819, 0xd6990624, 0xf40e3585, 0x106aa070,
  0x19a4c116, 0x1e376c08, 0x2748774c, 0x34b0bcb5, 0x391c0cb3, 0x4ed8aa4a, 0x5b9cca4f, 0x682e6ff3,
  0x748f82ee, 0x78a5636f, 0x84c87814, 0x8cc70208, 0x90befffa, 0xa4506ceb, 0xbef9a3f7, 0xc67178f2]

/-- The sixteen words of a block, and forty-eight more that each follow from the last sixteen. -/
def schedule (block : Bytes) : Array UInt32 :=
  (List.range 48).foldl (fun w i =>
    let w1 := w.getD (i + 1) 0
    let w14 := w.getD (i + 14) 0
    let s0 := rotateRight32 w1 7 ^^^ rotateRight32 w1 18 ^^^ (w1 >>> 3)
    let s1 := rotateRight32 w14 17 ^^^ rotateRight32 w14 19 ^^^ (w14 >>> 10)
    w.push (w.getD i 0 + s0 + w.getD (i + 9) 0 + s1)) ((pieces 3 block).map word32BE).toArray

def compress (s : State) (block : Bytes) : State :=
  s.add (((schedule block).toList.zip roundConstants).foldl (fun s w => s.round w.1 w.2) s)

/-- The message, a one bit, zeros, and the message length in bits as eight octets. -/
def padding (message : Bytes) : Bytes :=
  let used := (message.length + 9) % 64
  message ++ 0x80 :: (List.replicate ((64 - used) % 64) 0 ++ Bytes.ofNat 8 (8 * message.length))

def hash (message : Bytes) : Digest :=
  ⟨((pieces 63 (padding message)).foldl compress .initial).octets, rfl⟩

/-- The keyed code of a message, for keys of at most 64 octets. -/
def keyed (key message : Bytes) : Digest :=
  let block := padded 64 key
  hash (block.map (· ^^^ 0x5c) ++ (hash (block.map (· ^^^ 0x36) ++ message)).bytes)

end LedgerGateway.Hash.Sha256
