import LedgerGateway.Decimal
import LedgerGateway.Toml.Text

/-! The numbers and dates of documents. An integer has 64 bits with a sign. A date is an object with
one member that holds its text, so that it is mistaken for nothing else. -/

namespace LedgerGateway.Toml

/-- Takes an optional sign. -/
def sign : List Char → Bool × List Char
  | '-' :: cs => (true, cs)
  | '+' :: cs => (false, cs)
  | cs => (false, cs)

/-- Further digits, before each of which an underscore may stand; what was taken is in reverse. -/
def moreDigits (isDigit : Char → Bool) : (taken : List Char) → Reader (List Char)
  | taken, '_' :: c :: cs => if isDigit c then moreDigits isDigit (c :: taken) cs else none
  | _, ['_'] => none
  | taken, c :: cs =>
    if isDigit c then moreDigits isDigit (c :: taken) cs else some (taken.reverse, c :: cs)
  | taken, [] => some (taken.reverse, [])

/-- One or more digits, with single underscores between them. -/
def digits (isDigit : Char → Bool) : Reader (List Char)
  | c :: cs => if isDigit c then moreDigits isDigit [c] cs else none
  | [] => none

namespace Number

/-- Whether a document can hold an integer: one of 64 bits with a sign. -/
def isInteger (n : Int) : Bool := -0x8000000000000000 ≤ n && n < 0x8000000000000000

/-- An integer that a document can hold. -/
def word? (n : Int) : Option Json := if isInteger n then some (.integer n) else none

/-- An integer in another base, after its mark. -/
def based (base : Nat) (cs : List Char) : Option (Json × List Char) := do
  let isDigit := fun (c : Char) => ((Json.hexDigit? c).map fun d => decide (d < base)).getD false
  let (ds, rest) ← digits isDigit cs
  let value := ds.foldl (fun n c => n * base + (Json.hexDigit? c).getD 0) 0
  return (← word? value, rest)

/-- The digits before a point: a single zero, or digits that do not begin with it. -/
def whole : Reader (List Char)
  | '0' :: cs => some (['0'], cs)
  | cs => digits Char.isDigit cs

/-- The digits after a point, if there is one. -/
def places : Reader (List Char)
  | '.' :: cs => digits Char.isDigit cs
  | cs => some ([], cs)

/-- The power of ten after the mark `e`, if there is one. -/
def power : Reader (Option Int)
  | 'e' :: cs | 'E' :: cs => do
    let (negative, cs) := sign cs
    let (ds, rest) ← digits Char.isDigit cs
    let n : Int := Decimal.value ds
    return (some (if negative then -n else n), rest)
  | cs => some (none, cs)

/-- The binary number nearest to digits times a power of ten. Four hundred places to the left of the
digits or to the right of all of them nothing changes any more. -/
def nearest (negative : Bool) (digits : List Char) (exponent : Int) : Binary64 :=
  let bounded := max (-400 - (digits.length : Int)) (min 400 exponent)
  .ofRatio negative (Decimal.value digits * Nat.pow 10 bounded.toNat) (Nat.pow 10 (-bounded).toNat)

/-- A binary number that a document may write in digits. Too large a positive one is refused, and
too large a negative one is infinite. -/
def finite? (x : Binary64) : Option Json := if x = .infinity false then none else some (.binary x)

/-- A decimal number; with places or a power it is binary. -/
def decimal (cs : List Char) : Option (Json × List Char) := do
  let (negative, unsigned) := sign cs
  match unsigned with
  | 'i' :: 'n' :: 'f' :: rest => return (.binary (.infinity negative), rest)
  | 'n' :: 'a' :: 'n' :: rest => return (.binary .notANumber, rest)
  | _ =>
    let (ds, rest) ← whole unsigned
    let (fraction, rest) ← places rest
    let (exponent, rest) ← power rest
    if fraction.isEmpty ∧ exponent = none then
      let n : Int := Decimal.value ds
      return (← word? (if negative then -n else n), rest)
    else
      return (← finite? (nearest negative (ds ++ fraction) (exponent.getD 0 - fraction.length)),
        rest)

end Number

namespace Date

/-- A number of exactly so many digits, within bounds. -/
def field (count low high : Nat) : Reader Nat := fun cs =>
  let ds := cs.take count
  if ds.length = count ∧ ds.all Char.isDigit ∧ low ≤ Decimal.value ds ∧ Decimal.value ds ≤ high then
    some (Decimal.value ds, cs.drop count)
  else none

/-- Takes one character. -/
def mark (c : Char) : List Char → Option (List Char)
  | d :: rest => if c = d then some rest else none
  | [] => none

def isLeap (year : Nat) : Bool := year % 4 == 0 && (year % 100 != 0 || year % 400 == 0)

def daysOf (year month : Nat) : Nat :=
  if month = 2 then (if isLeap year then 29 else 28)
  else if month = 4 ∨ month = 6 ∨ month = 9 ∨ month = 11 then 30 else 31

def day (cs : List Char) : Option (List Char) := do
  let (year, cs) ← field 4 0 9999 cs
  let (month, cs) ← field 2 1 12 (← mark '-' cs)
  let (_, cs) ← field 2 1 (daysOf year month) (← mark '-' cs)
  return cs

def time (cs : List Char) : Option (List Char) := do
  let (_, cs) ← field 2 0 23 cs
  let (_, cs) ← field 2 0 59 (← mark ':' cs)
  let (_, cs) ← field 2 0 60 (← mark ':' cs)
  match cs with
  | '.' :: rest =>
    if (rest.takeWhile Char.isDigit).isEmpty then none else return rest.dropWhile Char.isDigit
  | rest => return rest

/-- The distance from universal time, which may be missing. -/
def offset (cs : List Char) : Option (List Char) :=
  match cs with
  | 'Z' :: rest | 'z' :: rest => some rest
  | '+' :: rest | '-' :: rest => do
    let (_, rest) ← field 2 0 23 rest
    let (_, rest) ← field 2 0 59 (← mark ':' rest)
    return rest
  | rest => some rest

/-- A time after a date. -/
def timeOfDay (cs : List Char) : Option (List Char) := do offset (← time cs)

/-- The text after a date, a time, or both. A blank separates them only when a time follows. -/
def rest? (cs : List Char) : Option (List Char) :=
  match day cs with
  | some rest =>
    match rest with
    | 'T' :: more | 't' :: more => timeOfDay more
    | ' ' :: more => if (field 2 0 23 more).isSome then timeOfDay more else some rest
    | rest => some rest
  | none => time cs

def read (cs : List Char) : Option (Json × List Char) := do
  let rest ← rest? cs
  let text := String.ofList (cs.take (cs.length - rest.length))
  return (.object [("date", .text text)], rest)

end Date

/-- Any number or date. Only a date has digits before a dash or a colon. -/
def number : Reader Json
  | '0' :: 'x' :: cs => Number.based 16 cs
  | '0' :: 'o' :: cs => Number.based 8 cs
  | '0' :: 'b' :: cs => Number.based 2 cs
  | cs =>
    match cs.dropWhile Char.isDigit with
    | '-' :: _ | ':' :: _ =>
      if (cs.takeWhile Char.isDigit).isEmpty then Number.decimal cs else Date.read cs
    | _ => Number.decimal cs

end LedgerGateway.Toml
