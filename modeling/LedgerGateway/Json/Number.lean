import LedgerGateway.Json

/-! Reading numbers. Digits are collected in a 64-bit significand; those that no longer fit are
dropped. A number with a point, an exponent or dropped digits is the significand scaled by one power
of ten, with one rounding for the significand and one for the scaling. -/

namespace LedgerGateway.Json

/-- Why a text is not read: it is no JSON, or JSON of another shape than wanted. -/
inductive Fault where
  | form
  | shape
  deriving DecidableEq

/-- A reader takes a value off the front of a text. -/
abbrev Reader (α : Type) := List Char → Except Fault (α × List Char)

namespace Number

def digitValue (c : Char) : Nat := c.toNat - 48

/-- The largest significand. -/
def limit : Nat := UInt64.size - 1

/-- The significand scaled by a power of ten. A negative power beyond `10 ^ 308` is taken in
steps. -/
def scaled (significand : Binary64) (exponent : Int) : Except Fault Binary64 :=
  if exponent > 308 then
    if significand.isZero then .ok significand else .error .form
  else if 0 ≤ exponent then
    let product := significand.mul (.ofNat (Nat.pow 10 exponent.toNat))
    if product.isInfinite then .error .form else .ok product
  else if -308 ≤ exponent then
    .ok (significand.div (.ofNat (Nat.pow 10 (-exponent).toNat)))
  else if significand.isZero then .ok significand
  else scaled (significand.div (.ofNat (Nat.pow 10 308))) (exponent + 308)
termination_by (-exponent).toNat

/-- The scaled significand with its sign. -/
def signed (negative : Bool) (significand : Nat) (exponent : Int) : Except Fault Json := do
  let magnitude ← scaled (.ofNat significand) exponent
  return .binary (if negative then magnitude.negate else magnitude)

/-- The exponents that are told apart; larger ones count as the largest. -/
def clamp (e : Int) : Int := max (-0x80000000) (min 0x7fffffff e)

/-- Reads the part after `e`. An exponent too large to count makes a significand infinite or
zero. -/
def exponentPart (negative : Bool) (significand : Nat) (start : Int) : Reader Json := fun cs =>
  let (down, cs) := match cs with
    | '+' :: rest => (false, rest)
    | '-' :: rest => (true, rest)
    | rest => (false, rest)
  let digits := cs.takeWhile Char.isDigit
  let rest := cs.dropWhile Char.isDigit
  if digits.isEmpty then .error .form
  else
    let power : Nat := digits.foldl (fun n c => n * 10 + digitValue c) 0
    if power ≥ 0x80000000 then
      if significand ≠ 0 ∧ !down then .error .form
      else .ok (.binary (.ofParts negative 0), rest)
    else do
      let exponent := if down then start - power else start + power
      return (← signed negative significand (clamp exponent), rest)

/-- Collects digits into a significand while it stays below the limit: the significand, how many
digits were taken, and the rest. -/
def collect (significand taken : Nat) : List Char → Nat × Nat × List Char
  | c :: cs =>
    if c.isDigit ∧ significand * 10 + digitValue c ≤ limit then
      collect (significand * 10 + digitValue c) (taken + 1) cs
    else (significand, taken, c :: cs)
  | [] => (significand, taken, [])

/-- What may follow the digits: an exponent or nothing. -/
def tail (negative : Bool) (significand : Nat) (exponent : Int) : Reader Json
  | 'e' :: cs | 'E' :: cs => exponentPart negative significand exponent cs
  | cs => do return (← signed negative significand exponent, cs)

/-- Reads the part after the point, which needs a digit. Digits that no longer fit are dropped. -/
def fractionPart (negative : Bool) (significand : Nat) (exponent : Int) : Reader Json := fun cs =>
  let (significand, taken, rest) := collect significand 0 cs
  match rest with
  | c :: _ =>
    if c.isDigit then tail negative significand (exponent - taken) (rest.dropWhile Char.isDigit)
    else if taken = 0 then .error .form
    else tail negative significand (exponent - taken) rest
  | [] => if taken = 0 then .error .form else tail negative significand (exponent - taken) rest

/-- Reads what follows the integer digits, of which `dropped` are not in the significand. -/
def afterInteger (negative : Bool) (significand dropped : Nat) : Reader Json
  | '.' :: cs => fractionPart negative significand dropped cs
  | 'e' :: cs | 'E' :: cs => exponentPart negative significand dropped cs
  | cs =>
    if dropped ≠ 0 then do return (← signed negative significand dropped, cs)
    else if !negative then .ok (.integer significand, cs)
    else if significand = 0 ∨ 0x8000000000000000 < significand then
      .ok (.binary (Binary64.ofNat significand).negate, cs)
    else .ok (.integer (-significand), cs)

/-- Reads a number without its sign. Only zero may start with the digit zero. -/
def unsigned (negative : Bool) : Reader Json
  | '0' :: cs =>
    match cs with
    | c :: _ => if c.isDigit then .error .form else afterInteger negative 0 0 cs
    | [] => afterInteger negative 0 0 cs
  | c :: cs =>
    if c.isDigit then
      let (significand, _, rest) := collect 0 0 (c :: cs)
      let dropped := (rest.takeWhile Char.isDigit).length
      afterInteger negative significand dropped (rest.dropWhile Char.isDigit)
    else .error .form
  | [] => .error .form

end Number

end LedgerGateway.Json
