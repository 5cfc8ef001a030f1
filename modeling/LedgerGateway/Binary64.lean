/-! The 64-bit binary numbers with an 11-bit exponent, as bit patterns, with arithmetic that is
exact up to one rounding to the nearest such number (a tie goes to the even one). -/

namespace LedgerGateway

/-- A 64-bit binary number, given by its pattern. -/
structure Binary64 where
  bits : UInt64
  deriving DecidableEq

namespace Binary64

/-- How many fractions there are, `2 ^ 52`. -/
def fractions : Nat := 0x10000000000000

/-- The weight of the sign, `2 ^ 63`. The pattern of a magnitude lies below. -/
def signWeight : Nat := 0x8000000000000000

/-- The pattern of an infinite magnitude. The patterns of finite magnitudes lie below, in their
order. -/
def infinite : Nat := 2047 * fractions

/-- How many of the smallest magnitudes make one, `2 ^ 1074`. -/
def unitsOfOne : Nat := Nat.pow 2 1074

def isNegative (a : Binary64) : Bool := a.bits.toNat ≥ signWeight

def exponentField (a : Binary64) : Nat := a.bits.toNat / fractions % 2048

def fraction (a : Binary64) : Nat := a.bits.toNat % fractions

/-- Neither infinite nor a code for "no number". -/
def isFinite (a : Binary64) : Bool := a.exponentField != 2047

def isZero (a : Binary64) : Bool := a.bits.toNat % signWeight == 0

def isInfinite (a : Binary64) : Bool := a.bits.toNat % signWeight == infinite

/-- The integer factor of a finite number. -/
def significand (a : Binary64) : Nat :=
  if a.exponentField = 0 then a.fraction else fractions + a.fraction

/-- The power of two that the factor is counted in, above the smallest one. -/
def scale (a : Binary64) : Nat := a.exponentField - 1

/-- The magnitude of a finite number as a multiple of the smallest one. -/
def units (a : Binary64) : Nat := a.significand * Nat.pow 2 a.scale

/-- Strictly above zero; false where there is no number. -/
def isPositive (a : Binary64) : Bool :=
  !a.isNegative && !a.isZero && (a.isFinite || a.isInfinite)

/-- The number of a sign and the pattern of a magnitude. -/
def ofParts (negative : Bool) (magnitude : Nat) : Binary64 :=
  ⟨UInt64.ofNat ((if negative then signWeight else 0) + magnitude)⟩

def infinity (negative : Bool) : Binary64 := ofParts negative infinite

def notANumber : Binary64 := ofParts false (infinite + fractions / 2)

def negate (a : Binary64) : Binary64 := ⟨a.bits ^^^ 0x8000000000000000⟩

/-- The integer nearest to `num / den`; a tie goes to the even one. -/
def nearest (num den : Nat) : Nat :=
  let q := num / den
  let r := num % den
  if 2 * r < den then q
  else if 2 * r = den then q + q % 2
  else q + 1

/-- The pattern of the magnitude nearest to `num / den`. The pattern of a factor at a scale is the
scale times the number of fractions plus the factor, also when rounding carries the factor into the
next power of two. -/
def magnitudeOfRatio (num den : Nat) : Nat :=
  let inUnits := num * unitsOfOne
  let s := (inUnits / den).log2 - 52
  min (s * fractions + nearest inUnits (den * Nat.pow 2 s)) infinite

/-- The number nearest to `num / den`, infinite when that is out of range. -/
def ofRatio (negative : Bool) (num den : Nat) : Binary64 :=
  ofParts negative (magnitudeOfRatio num den)

def ofNat (n : Nat) : Binary64 := ofRatio false n 1

def ofInt : Int → Binary64
  | .ofNat n => ofNat n
  | .negSucc n => ofRatio true (n + 1) 1

def mul (a b : Binary64) : Binary64 :=
  let negative := a.isNegative != b.isNegative
  if a.isFinite && b.isFinite then
    ofRatio negative (a.units * b.units) (unitsOfOne * unitsOfOne)
  else if (a.isFinite || a.isInfinite) && (b.isFinite || b.isInfinite) &&
      !a.isZero && !b.isZero then
    infinity negative
  else notANumber

/-- Division of a finite number by a finite number other than zero. -/
def div (a b : Binary64) : Binary64 :=
  ofRatio (a.isNegative != b.isNegative) a.units b.units

/-- The least natural number not below a finite number. -/
def ceilNat (a : Binary64) : Nat :=
  if a.isNegative then 0 else (a.units + (unitsOfOne - 1)) / unitsOfOne

end Binary64

end LedgerGateway
