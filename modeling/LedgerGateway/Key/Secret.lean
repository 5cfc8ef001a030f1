import LedgerGateway.Key.Signature
import LedgerGateway.Hash.Sha256

/-! Secret keys and signing with a nonce that is derived from the key and the digest. -/

namespace LedgerGateway

/-- A secret scalar with its public key. -/
structure SecretKey where
  scalar : Nat
  publicKey : PublicKey

namespace SecretKey

/-- Reads 32 octets that write a number between zero and the group order. -/
def ofBytes (b : Bytes) : Except KeyError SecretKey :=
  let scalar := Bytes.toNat b
  if b.length = 32 ∧ 0 < scalar ∧ scalar < Curve.groupOrder then
    match (Curve.Weighted.times scalar (.ofAffine Curve.generator)).affine? with
    | some (x, y) =>
      match PublicKey.ofPoint? x y with
      | some key => .ok ⟨scalar, key⟩
      | none => .error .invalidSecretKey
    | none => .error .invalidSecretKey
  else .error .invalidSecretKey

/-- The scalar one, whose public key is the generator. Everybody knows it, so that it
protects nothing. -/
def one : SecretKey := ⟨1, Curve.generator.1, Curve.generator.2, by decide⟩

/-- The form for logs, which hides the scalar. -/
def shown (_ : SecretKey) : String := "PrivateKey(..)"

/-- The state of the nonce generator: a key and a chaining value. -/
structure Generator where
  key : Bytes
  value : Bytes

namespace Generator

/-- Stirs octets into the state behind a separating octet. -/
def stir (g : Generator) (separator : UInt8) (seed : Bytes) : Generator :=
  let key := (Hash.Sha256.keyed g.key (g.value ++ separator :: seed)).bytes
  ⟨key, (Hash.Sha256.keyed key g.value).bytes⟩

def start (seed : Bytes) : Generator :=
  ((⟨List.replicate 32 0, List.replicate 32 1⟩ : Generator).stir 0 seed).stir 1 seed

/-- The candidate scalars, one after the other. -/
def candidates : (count : Nat) → Generator → List Nat
  | 0, _ => []
  | count + 1, g =>
    let value := (Hash.Sha256.keyed g.key g.value).bytes
    Bytes.toNat value :: candidates count (({ g with value := value } : Generator).stir 0 [])

end Generator

/-- Signs the number `z` with a nonce; nothing when the nonce is out of range or a half comes out
zero. The second half is kept in the lower half of its range, which turns the parity of the
described point. -/
def signWith? (secret : SecretKey) (z nonce : Nat) : Option Signature := do
  let order := Curve.groupOrder
  if nonce = 0 ∨ nonce ≥ order then failure
  let (x, y) ← (Curve.Weighted.times nonce (.ofAffine Curve.generator)).affine?
  let r := x % order
  let s := Curve.inverse order nonce * ((z + r * secret.scalar) % order) % order
  if r = 0 ∨ s = 0 then failure
  let high := decide (s > order / 2)
  let s := if high then order - s else s
  let odd := (y % 2 == 1) != high
  let recovery := Signature.recoveryOfPoint (decide (x ≥ order)) odd
  if h : r < Curve.groupOrder ∧ s < Curve.groupOrder then
    return ⟨r, s, recovery, h.1, h.2⟩
  else failure

/-- Signs a digest. The seed of the nonce is the scalar and the digest reduced by the group order; a
candidate fails with negligible probability, so a few of them suffice. -/
def sign? (secret : SecretKey) (digest : Digest) : Option Signature :=
  let z := Bytes.toNat digest.bytes % Curve.groupOrder
  let seed := Bytes.ofNat 32 secret.scalar ++ Bytes.ofNat 32 z
  ((Generator.start seed).candidates 8).findSome? (secret.signWith? z)

end SecretKey

end LedgerGateway
