import LedgerGateway.Json.Parser

/-! Skipping values that nobody asks for. Their form is checked, but neither how deep they are
nested, nor whether their numbers are in range or their escapes pair up. -/

namespace LedgerGateway.Json.Skip

/-- Skips a string after its opening quote. -/
def stringBody : (fuel : Nat) → Reader Unit
  | 0, _ => .error .form
  | fuel + 1, cs =>
    match cs with
    | [] => .error .form
    | '"' :: rest => .ok ((), rest)
    | '\\' :: 'u' :: rest =>
      match hexWord? rest with
      | some (_, rest) => stringBody fuel rest
      | none => .error .form
    | '\\' :: e :: rest => if (short? e).isSome then stringBody fuel rest else .error .form
    | c :: rest => if c.toNat < 0x20 ∨ c = '\\' then .error .form else stringBody fuel rest

def afterQuote : Reader Unit := fun cs => stringBody (cs.length + 1) cs

/-- One or more digits. -/
def digits (cs : List Char) : Except Fault (List Char) :=
  match cs with
  | c :: rest => if c.isDigit then .ok (rest.dropWhile Char.isDigit) else .error .form
  | [] => .error .form

def exponent (cs : List Char) : Except Fault (List Char) :=
  match cs with
  | '+' :: rest | '-' :: rest => digits rest
  | rest => digits rest

/-- What may follow the integer digits. -/
def afterInteger : List Char → Except Fault (List Char)
  | '.' :: rest => do
    match ← digits rest with
    | 'e' :: rest | 'E' :: rest => exponent rest
    | rest => return rest
  | 'e' :: rest | 'E' :: rest => exponent rest
  | rest => .ok rest

/-- Skips a number without its sign. -/
def number (cs : List Char) : Except Fault (List Char) :=
  match cs with
  | '0' :: c :: rest => if c.isDigit then .error .form else afterInteger (c :: rest)
  | cs => do afterInteger (← digits cs)

def scalar : Reader Unit
  | '"' :: cs => afterQuote cs
  | 'n' :: cs => (word ['u', 'l', 'l'] .null cs).map fun r => ((), r.2)
  | 't' :: cs => (word ['r', 'u', 'e'] .null cs).map fun r => ((), r.2)
  | 'f' :: cs => (word ['a', 'l', 's', 'e'] .null cs).map fun r => ((), r.2)
  | '-' :: cs => (number cs).map fun r => ((), r)
  | cs => (number cs).map fun r => ((), r)

/-- Skips a value; `fuel` bounds the number of brackets around each part of it. -/
def within : (fuel : Nat) → Reader Unit
  | 0, _ => .error .form
  | fuel + 1, cs =>
    match skipBlank cs with
    | '[' :: rest => items (fun _ => within fuel) () rest
    | '\x7b' :: rest =>
      members afterQuote (fun _ _ cs => do within fuel (← afterColon cs)) () rest
    | cs => scalar cs

def value : Reader Unit := fun cs => within (cs.length + 1) cs

end LedgerGateway.Json.Skip
