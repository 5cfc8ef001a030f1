/-! Decimal text of natural numbers and integers. -/

namespace LedgerGateway.Decimal

/-- The digits of a number, without zeros in front. -/
def digits (n : Nat) : List Char := Nat.toDigits 10 n

/-- The number that digits write. -/
def value (cs : List Char) : Nat := cs.foldl (fun n c => n * 10 + (c.toNat - 48)) 0

/-- Reads one or more digits and nothing else; zeros in front are allowed. -/
def nat? (cs : List Char) : Option Nat :=
  if cs ≠ [] ∧ cs.all Char.isDigit then some (value cs) else none

/-- Reads digits, after at most one plus sign, of a number below `2 ^ 64`. -/
def word? (cs : List Char) : Option UInt64 :=
  let digits := match cs with
    | '+' :: rest => rest
    | cs => cs
  match nat? digits with
  | some n => if n < UInt64.size then some (.ofNat n) else none
  | none => none

def natText (n : Nat) : String := String.ofList (digits n)

/-- A minus sign before the digits of a negative number. -/
def intChars : Int → List Char
  | .ofNat n => digits n
  | .negSucc n => '-' :: digits (n + 1)

def intText (n : Int) : String := String.ofList (intChars n)

end LedgerGateway.Decimal
