import LedgerGateway.Bytes

/-! Base-16 text. Written in lower case, read in either case; a fault names the first offending
octet of the text in its escaped form. -/

namespace LedgerGateway.Hex

/-- Why a text is no base-16 form of an octet string. -/
inductive Fault where
  | oddLength
  | badCharacter (octet : UInt8) (position : Nat)
  deriving DecidableEq

/-- The digit of a value below sixteen. -/
def digit (n : Nat) : Char := if n < 10 then Char.ofNat (48 + n) else Char.ofNat (87 + n)

/-- The value of a base-16 digit given by its ASCII code. -/
def digitValue? (octet : UInt8) : Option Nat :=
  let n := octet.toNat
  if 48 ≤ n ∧ n ≤ 57 then some (n - 48)
  else if 97 ≤ n ∧ n ≤ 102 then some (n - 87)
  else if 65 ≤ n ∧ n ≤ 70 then some (n - 55)
  else none

/-- Two lower-case digits for each octet. -/
def digits (b : Bytes) : List Char :=
  b.flatMap fun d => [digit (d.toNat / 16), digit (d.toNat % 16)]

def encode (b : Bytes) : String := String.ofList (digits b)

/-- Reads pairs of digits; `position` counts the octets of the text before them. -/
def readPairs (position : Nat) : Bytes → Except Fault Bytes
  | high :: low :: rest =>
    match digitValue? high, digitValue? low with
    | none, _ => .error (.badCharacter high position)
    | some _, none => .error (.badCharacter low (position + 1))
    | some h, some l => do
      let more ← readPairs (position + 2) rest
      return UInt8.ofNat (16 * h + l) :: more
  | _ => .ok []

/-- An odd number of octets is reported before any offending one. -/
def decode (s : String) : Except Fault Bytes :=
  let text := Bytes.ofText s
  if text.length % 2 = 1 then .error .oddLength else readPairs 0 text

/-- The form in which a message shows one octet, read as a Latin-1 character: quoted, with the usual
short escapes, and by number when it is no printable character. -/
def shown (octet : UInt8) : String :=
  let n := octet.toNat
  let body :=
    if n = 0 then "\\0" else if n = 9 then "\\t" else if n = 10 then "\\n" else if n = 13 then "\\r"
    else if n = 39 then "\\'" else if n = 92 then "\\\\"
    else if n < 32 ∨ (127 ≤ n ∧ n ≤ 160) ∨ n = 173 then
      "\\u\x7b" ++ String.ofList (Nat.toDigits 16 n) ++ "\x7d"
    else String.singleton (Char.ofNat n)
  "'" ++ body ++ "'"

def Fault.message : Fault → String
  | .oddLength => "Odd number of digits"
  | .badCharacter octet position =>
    "Invalid character " ++ shown octet ++ " at position " ++ toString position

/-- A text without one leading `0x`; only the lower-case form is a mark. -/
def withoutMark (s : String) : String :=
  match s.toList with
  | '0' :: 'x' :: rest => String.ofList rest
  | _ => s

/-- A text without any of the `0x` marks that stand before it. -/
def withoutMarks (s : String) : String :=
  let rec strip : List Char → List Char
    | '0' :: 'x' :: rest => strip rest
    | cs => cs
  String.ofList (strip s.toList)

end LedgerGateway.Hex
