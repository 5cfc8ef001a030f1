import LedgerGateway.Key.Public

/-! Signatures from which the signer's key can be recovered. -/

namespace LedgerGateway

/-- The two halves of a signature and the number that picks the signer among the candidate keys. -/
structure Signature where
  r : Nat
  s : Nat
  recovery : Fin 4
  r_lt : r < Curve.groupOrder
  s_lt : s < Curve.groupOrder
  deriving DecidableEq

namespace Signature

/-- How many octets a signature may have: without the recovery number, and with it. -/
def lengths : List Nat := [64, 65]

/-- Both halves and the recovery number as 65 octets. -/
def bytes (sig : Signature) : Bytes :=
  Bytes.ofNat 32 sig.r ++ Bytes.ofNat 32 sig.s ++ [UInt8.ofNat sig.recovery.val]

/-- The signature with the given halves, unless one of them reaches the group order. -/
def ofHalves? (halves : Bytes) (recovery : Fin 4) : Option Signature :=
  let r := Bytes.toNat (halves.take 32)
  let s := Bytes.toNat (halves.drop 32)
  if h : r < Curve.groupOrder ∧ s < Curve.groupOrder then some ⟨r, s, recovery, h.1, h.2⟩ else none

/-- The recovery number of a point: whether its first coordinate reaches the group order, and
whether its second one is odd. -/
def recoveryOfPoint : (reaches odd : Bool) → Fin 4
  | false, false => 0
  | false, true => 1
  | true, false => 2
  | true, true => 3

/-- The recovery number that a last octet stands for: itself, or counted from 27. -/
def recoveryOf? (octet : UInt8) : Option (Fin 4) :=
  match octet.toNat with
  | 0 | 27 => some 0
  | 1 | 28 => some 1
  | _ => none

/-- Reads 65 octets: both halves and a last octet for the recovery number. -/
def ofRecoverable (b : Bytes) : Except KeyError Signature :=
  match b.drop 64 with
  | [octet] =>
    match recoveryOf? octet with
    | none => .error (.invalidRecoveryId octet.toNat)
    | some recovery =>
      match ofHalves? (b.take 64) recovery with
      | none => .error .malformedSignature
      | some sig => .ok sig
  | _ => .error (.invalidSignatureLength b.length)

/-- The key whose holder signed the digest: `(s · R − z · G) / r`, where `R` is the point that the
signature describes. A half equal to zero describes none. -/
def recover? (sig : Signature) (digest : Digest) : Option PublicKey := do
  let order := Curve.groupOrder
  if sig.r = 0 ∨ sig.s = 0 then failure
  let x := if sig.recovery.val ≥ 2 then sig.r + order else sig.r
  if x ≥ Curve.fieldOrder then failure
  let y ← Curve.ordinate? x (sig.recovery.val % 2 == 1)
  let z := Bytes.toNat digest.bytes % order
  let i := Curve.inverse order sig.r
  let ofR := Curve.Weighted.times (sig.s * i % order) (.ofAffine (x, y))
  let ofG := Curve.Weighted.times ((order - z) * i % order) (.ofAffine Curve.generator)
  let (x, y) ← (ofR.add ofG).affine?
  PublicKey.ofPoint? x y

/-- A signature is good for a key when it recovers exactly that key. -/
def verify (sig : Signature) (digest : Digest) (signer : PublicKey) : Bool :=
  sig.recover? digest == some signer

/-- Reads a signature of a known signer. Where 64 octets leave out the recovery number, the one that
recovers the signer is taken. -/
def ofBytesForSigner (b : Bytes) (digest : Digest) (signer : PublicKey) :
    Except KeyError Signature :=
  if b.length = 65 then do
    let sig ← ofRecoverable b
    if sig.verify digest signer then .ok sig else .error .signatureMismatch
  else if b.length = 64 then
    let fitting := [0, 1].filterMap fun recovery =>
      (ofHalves? b recovery).filter fun sig => sig.verify digest signer
    match fitting.head? with
    | some sig => .ok sig
    | none => .error .signatureMismatch
  else .error (.invalidSignatureLength b.length)

/-- The form for logs. -/
def shown (sig : Signature) : String := "Signature(" ++ Hex.encode sig.bytes ++ ")"

end Signature

end LedgerGateway
