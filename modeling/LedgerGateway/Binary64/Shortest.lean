import LedgerGateway.Binary64

/-! The decimals with the fewest digits that read back as a given number, and their notations. -/

namespace LedgerGateway.Binary64

/-- Which neighbour is written when the number lies halfway between two shortest decimals. -/
inductive Tie where
  | up
  | even
  deriving DecidableEq

/-- The value `digits · 10 ^ exponent`. -/
structure Decimal where
  digits : Nat
  exponent : Int
  deriving DecidableEq

/-- The number of decimal digits. -/
def digitCount (n : Nat) : Nat := (Nat.toDigits 10 n).length

/-- The power of ten of the leading digit of a magnitude other than zero. -/
def leadingPower (a : Binary64) : Int :=
  (digitCount (a.units * Nat.pow 10 400 / unitsOfOne) : Int) - 401

/-- The nearest point of the grid of step `10 ^ power` that lies where numbers round to `a`.
Ends belong to that interval when the factor is even, and the lower half is narrower at a
power of two. -/
def onGrid? (tie : Tie) (a : Binary64) (power : Int) : Option Nat :=
  let step := 4 * unitsOfOne * Nat.pow 10 power.toNat
  let factor := Nat.pow 10 (-power).toNat
  let value := 4 * a.units * factor
  let gap := Nat.pow 2 a.scale * factor
  let below := if a.fraction = 0 ∧ a.exponentField > 1 then gap else 2 * gap
  let inside (p : Nat) : Bool :=
    if a.significand % 2 = 0 then value ≤ p + below && p ≤ value + 2 * gap
    else value < p + below && p < value + 2 * gap
  let low := value / step
  let high := low + 1
  let highWins :=
    value - low * step > high * step - value ||
      (value - low * step == high * step - value && (tie == .up || low % 2 == 1))
  match inside (low * step), inside (high * step) with
  | true, true => some (if highWins then high else low)
  | true, false => some low
  | false, true => some high
  | false, false => none

/-- Moves the zeros at the end of the digits into the exponent. -/
def withoutZeros (fuel : Nat) (d : Decimal) : Decimal :=
  match fuel with
  | 0 => d
  | fuel + 1 =>
    if d.digits ≠ 0 ∧ d.digits % 10 = 0 then withoutZeros fuel ⟨d.digits / 10, d.exponent + 1⟩
    else d

/-- The shortest decimal of a finite magnitude; seventeen digits always suffice. -/
def shortest (tie : Tie) (a : Binary64) : Decimal :=
  if a.isZero then ⟨0, 0⟩
  else
    let lead := a.leadingPower
    let found := (List.range 17).findSome? fun (n : Nat) =>
      (onGrid? tie a (lead - (n : Int))).map fun d => (⟨d, lead - (n : Int)⟩ : Decimal)
    withoutZeros 20 (found.getD ⟨0, 0⟩)

/-- All digits with the point in its place, and neither an exponent nor a bare zero after the
point. -/
def Decimal.positional (d : Decimal) : List Char :=
  let digits := Nat.toDigits 10 d.digits
  if 0 ≤ d.exponent then
    if d.digits = 0 then ['0'] else digits ++ List.replicate d.exponent.toNat '0'
  else
    let places := (-d.exponent).toNat
    if digits.length ≤ places then
      '0' :: '.' :: (List.replicate (places - digits.length) '0' ++ digits)
    else digits.take (digits.length - places) ++ '.' :: digits.drop (digits.length - places)

/-- The text of a number inside a message: shortest digits, positional. -/
def plainText (a : Binary64) : String :=
  let sign := if a.isNegative then "-" else ""
  if a.isFinite then sign ++ String.ofList (shortest .up a).positional
  else if a.isInfinite then sign ++ "inf"
  else "NaN"

/-- The text of a finite number in a document: positional with at least one place while the leading
digit stands for a power between `10 ^ -5` and `10 ^ 15`, with an exponent otherwise. -/
def documentText (a : Binary64) : String :=
  let sign := if a.isNegative then ['-'] else []
  let d := shortest .even a
  let digits := Nat.toDigits 10 d.digits
  let point := (digits.length : Int) + d.exponent
  let body :=
    if a.isZero then ['0', '.', '0']
    else if 0 ≤ d.exponent ∧ point ≤ 16 then d.positional ++ ['.', '0']
    else if -5 < point ∧ point ≤ 16 then d.positional
    else
      let power := point - 1
      let tail := 'e' :: ((if power < 0 then ['-'] else []) ++ Nat.toDigits 10 power.natAbs)
      match digits with
      | [lead] => lead :: tail
      | lead :: rest => lead :: '.' :: (rest ++ tail)
      | [] => []
  String.ofList (sign ++ body)

end LedgerGateway.Binary64
