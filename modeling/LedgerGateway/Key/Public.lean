import LedgerGateway.Curve
import LedgerGateway.Key.Error

/-! Public keys: points of the curve, written in 33 or 65 octets. -/

namespace LedgerGateway

/-- A point of the curve other than infinity. -/
structure PublicKey where
  x : Nat
  y : Nat
  isPoint : Curve.IsPoint x y
  deriving DecidableEq

namespace PublicKey

/-- The key with the given coordinates, if they are a point. -/
def ofPoint? (x y : Nat) : Option PublicKey :=
  if h : Curve.IsPoint x y then some ⟨x, y, h⟩ else none

@[simp] theorem ofPoint?_self (k : PublicKey) : ofPoint? k.x k.y = some k := by
  simp [ofPoint?, k.isPoint]

/-- Both coordinates after the mark `04`. -/
def uncompressed (k : PublicKey) : Bytes := 4 :: (Bytes.ofNat 32 k.x ++ Bytes.ofNat 32 k.y)

/-- The first coordinate after a mark for the parity of the second. -/
def compressed (k : PublicKey) : Bytes :=
  (if k.y % 2 = 1 then 3 else 2) :: Bytes.ofNat 32 k.x

/-- The point that the octets write. The marks `06` and `07` stand before both coordinates and
repeat the parity of the second one. -/
def point? : Bytes → Option PublicKey
  | [] => none
  | mark :: rest =>
    let x := Bytes.toNat (rest.take 32)
    let y := Bytes.toNat (rest.drop 32)
    if rest.length = 32 then
      if mark = 2 ∨ mark = 3 then
        if x < Curve.fieldOrder then (Curve.ordinate? x (mark == 3)).bind (ofPoint? x) else none
      else none
    else if mark = 4 ∨ (mark = 6 ∧ y % 2 = 0) ∨ (mark = 7 ∧ y % 2 = 1) then ofPoint? x y
    else none

def ofBytes (b : Bytes) : Except KeyError PublicKey :=
  if b.length ≠ 33 ∧ b.length ≠ 65 then .error (.invalidPublicKey (.length b.length))
  else
    match point? b with
    | some k => .ok k
    | none => .error (.invalidPublicKey .malformed)

/-- Reads base-16 text with or without a leading `0x`. -/
def ofHex (s : String) : Except KeyError PublicKey :=
  match Hex.decode (Hex.withoutMark s) with
  | .error fault => .error (.invalidPublicKey (.hex fault))
  | .ok b => ofBytes b

/-- The form for logs, by the compressed octets. -/
def shown (k : PublicKey) : String := "PublicKey(" ++ Hex.encode k.compressed ++ ")"

end PublicKey

end LedgerGateway
