/-! Arithmetic of the curve `y² = x³ + 7` over the field of `fieldOrder` elements. Coordinates are
natural numbers below the field order; multiplication works on weighted coordinates, so that only
one inversion is needed. -/

namespace LedgerGateway.Curve

def fieldOrder : Nat := 0xfffffffffffffffffffffffffffffffffffffffffffffffffffffffefffffc2f

/-- The number of points, which is also the modulus of scalars. -/
def groupOrder : Nat := 0xfffffffffffffffffffffffffffffffebaaedce6af48a03bbfd25e8cd0364141

/-- `base ^ exponent % modulus` by repeated squaring. -/
def powMod (modulus base exponent : Nat) : Nat :=
  if exponent = 0 then 1 % modulus
  else
    let half := powMod modulus (base * base % modulus) (exponent / 2)
    if exponent % 2 = 1 then half * base % modulus else half
termination_by exponent
decreasing_by omega

/-- The inverse modulo a prime; zero for zero. -/
def inverse (modulus a : Nat) : Nat := powMod modulus a (modulus - 2)

namespace Field

def add (a b : Nat) : Nat := (a + b) % fieldOrder
def sub (a b : Nat) : Nat := (a + fieldOrder - b) % fieldOrder
def mul (a b : Nat) : Nat := a * b % fieldOrder

end Field

/-- The curve equation for coordinates in range. -/
def IsPoint (x y : Nat) : Prop :=
  x < fieldOrder ∧ y < fieldOrder ∧ y * y % fieldOrder = (x * x * x + 7) % fieldOrder

instance (x y : Nat) : Decidable (IsPoint x y) := by unfold IsPoint; infer_instance

/-- The point `(x / z², y / z³)`, or the point at infinity when `z` is zero. -/
structure Weighted where
  x : Nat
  y : Nat
  z : Nat

namespace Weighted

open LedgerGateway.Curve.Field

def infinity : Weighted := ⟨1, 1, 0⟩

def ofAffine (point : Nat × Nat) : Weighted := ⟨point.1, point.2, 1⟩

def double (a : Weighted) : Weighted :=
  let xx := mul a.x a.x
  let yy := mul a.y a.y
  let s := mul 4 (mul a.x yy)
  let m := mul 3 xx
  let x := sub (mul m m) (add s s)
  ⟨x, sub (mul m (sub s x)) (mul 8 (mul yy yy)), mul 2 (mul a.y a.z)⟩

def add (a b : Weighted) : Weighted :=
  if a.z = 0 then b
  else if b.z = 0 then a
  else
    let zza := mul a.z a.z
    let zzb := mul b.z b.z
    let ua := mul a.x zzb
    let ub := mul b.x zza
    let sa := mul a.y (mul zzb b.z)
    let sb := mul b.y (mul zza a.z)
    if ua = ub then
      if sa = sb then double a else infinity
    else
      let h := sub ub ua
      let r := sub sb sa
      let hh := mul h h
      let hhh := mul hh h
      let v := mul ua hh
      let x := sub (sub (mul r r) hhh) (Field.add v v)
      ⟨x, sub (mul r (sub v x)) (mul sa hhh), mul h (mul a.z b.z)⟩

/-- The sum of `scalar` copies of a point, by doubling. -/
def times (scalar : Nat) (a : Weighted) : Weighted :=
  if scalar = 0 then infinity
  else
    let rest := times (scalar / 2) (double a)
    if scalar % 2 = 1 then add a rest else rest
termination_by scalar
decreasing_by omega

/-- The coordinates of a point, none for the point at infinity. -/
def affine? (a : Weighted) : Option (Nat × Nat) :=
  if a.z = 0 then none
  else
    let i := inverse fieldOrder a.z
    let ii := mul i i
    some (mul a.x ii, mul a.y (mul ii i))

end Weighted

def generator : Nat × Nat :=
  (0x79be667ef9dcbbac55a06295ce870b07029bfcdb2dce28d959f2815b16f81798,
   0x483ada7726a3c4655da4fbfc0e1108a8fd17b448a68554199c47d08ffb10d4b8)

/-- The second coordinate over `x` with the wanted parity, if `x` is the first coordinate of a
point. The field order leaves 3 modulo 4, so a power is a root of every square. -/
def ordinate? (x : Nat) (odd : Bool) : Option Nat :=
  let square := (x * x * x + 7) % fieldOrder
  let root := powMod fieldOrder square ((fieldOrder + 1) / 4)
  if root * root % fieldOrder ≠ square then none
  else if (root % 2 == 1) = odd then some root
  else some (fieldOrder - root)

end LedgerGateway.Curve
