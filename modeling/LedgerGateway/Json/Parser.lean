import LedgerGateway.Json.Number

/-! Reading JSON text. Arrays and objects may be nested to a given depth; the members of an object
and the items of an array are handed to a reader one by one, so that a typed reader meets faults in
the order of the text. -/

namespace LedgerGateway.Json

/-- A text without the four blank characters in front. -/
def skipBlank (cs : List Char) : List Char :=
  cs.dropWhile fun c => c == ' ' || c == '\n' || c == '\t' || c == '\r'

def hexDigit? (c : Char) : Option Nat :=
  let n := c.toNat
  if 48 ≤ n ∧ n ≤ 57 then some (n - 48)
  else if 97 ≤ n ∧ n ≤ 102 then some (n - 87)
  else if 65 ≤ n ∧ n ≤ 70 then some (n - 55)
  else none

/-- Four base-16 digits. -/
def hexWord? : List Char → Option (Nat × List Char)
  | a :: b :: c :: d :: rest => do
    return (((← hexDigit? a) * 16 + (← hexDigit? b)) * 256 +
      (← hexDigit? c) * 16 + (← hexDigit? d), rest)
  | _ => none

/-- The character of a numbered escape, after the letter `u`. A high half must be followed by the
escape of a low half, and no low half stands alone. -/
def numbered? (cs : List Char) : Option (Char × List Char) := do
  let (high, rest) ← hexWord? cs
  if 0xdc00 ≤ high ∧ high < 0xe000 then none
  else if 0xd800 ≤ high ∧ high < 0xdc00 then
    match rest with
    | '\\' :: 'u' :: rest => do
      let (low, rest) ← hexWord? rest
      if 0xdc00 ≤ low ∧ low < 0xe000 then
        some (Char.ofNat (0x10000 + (high - 0xd800) * 0x400 + (low - 0xdc00)), rest)
      else none
    | _ => none
  else some (Char.ofNat high, rest)

/-- The character of a short escape. -/
def short? : Char → Option Char
  | '"' => some '"'
  | '\\' => some '\\'
  | '/' => some '/'
  | 'b' => some '\x08'
  | 'f' => some '\x0c'
  | 'n' => some '\n'
  | 'r' => some '\r'
  | 't' => some '\t'
  | _ => none

/-- Reads a string after its opening quote; `fuel` bounds the number of characters. -/
def stringBody : (fuel : Nat) → (taken : List Char) → Reader String
  | 0, _, _ => .error .form
  | fuel + 1, taken, cs =>
    match cs with
    | [] => .error .form
    | '"' :: rest => .ok (String.ofList taken.reverse, rest)
    | '\\' :: 'u' :: rest =>
      match numbered? rest with
      | some (c, rest) => stringBody fuel (c :: taken) rest
      | none => .error .form
    | '\\' :: e :: rest =>
      match short? e with
      | some c => stringBody fuel (c :: taken) rest
      | none => .error .form
    | c :: rest =>
      if c.toNat < 0x20 ∨ c = '\\' then .error .form else stringBody fuel (c :: taken) rest

def afterQuote : Reader String := fun cs => stringBody (cs.length + 1) [] cs

/-- Reads the rest of a literal word. -/
def word (rest : List Char) (value : Json) : Reader Json := fun cs =>
  if rest.isPrefixOf cs then .ok (value, cs.drop rest.length) else .error .form

/-- Reads the further items of an array, each after a comma, up to the closing bracket. -/
def moreItems {α : Type} (item : α → Reader α) : (fuel : Nat) → α → Reader α
  | 0, _, _ => .error .form
  | fuel + 1, acc, cs =>
    match skipBlank cs with
    | ']' :: rest => .ok (acc, rest)
    | ',' :: rest => do
      let (acc, rest) ← item acc (skipBlank rest)
      moreItems item fuel acc rest
    | _ => .error .form

/-- Reads an array after its opening bracket; `item` reads one item and adds it to what was
gathered. -/
def items {α : Type} (item : α → Reader α) (acc : α) : Reader α := fun cs =>
  match skipBlank cs with
  | ']' :: rest => .ok (acc, rest)
  | cs => do
    let (acc, rest) ← item acc cs
    moreItems item (rest.length + 1) acc rest

/-- Goes from a key to its value. -/
def afterColon (cs : List Char) : Except Fault (List Char) :=
  match skipBlank cs with
  | ':' :: rest => .ok (skipBlank rest)
  | _ => .error .form

/-- Reads one member: its key, and what `member` takes of the text after it, the colon included. -/
def oneMember {κ α : Type} (key : Reader κ) (member : α → κ → Reader α) (acc : α) : Reader α
  | '"' :: cs => do
    let (k, rest) ← key cs
    member acc k rest
  | _ => .error .form

def moreMembers {κ α : Type} (key : Reader κ) (member : α → κ → Reader α) :
    (fuel : Nat) → α → Reader α
  | 0, _, _ => .error .form
  | fuel + 1, acc, cs =>
    match skipBlank cs with
    | '\x7d' :: rest => .ok (acc, rest)
    | ',' :: rest => do
      let (acc, rest) ← oneMember key member acc (skipBlank rest)
      moreMembers key member fuel acc rest
    | _ => .error .form

/-- Reads an object after its opening brace; `key` reads the keys after their opening quotes. -/
def members {κ α : Type} (key : Reader κ) (member : α → κ → Reader α) (acc : α) :
    Reader α := fun cs =>
  match skipBlank cs with
  | '\x7d' :: rest => .ok (acc, rest)
  | cs => do
    let (acc, rest) ← oneMember key member acc cs
    moreMembers key member (rest.length + 1) acc rest

/-- Reads a value that is neither array nor object. -/
def scalar : Reader Json
  | '"' :: cs => do
    let (s, rest) ← afterQuote cs
    return (.text s, rest)
  | 'n' :: cs => word ['u', 'l', 'l'] .null cs
  | 't' :: cs => word ['r', 'u', 'e'] (.bool true) cs
  | 'f' :: cs => word ['a', 'l', 's', 'e'] (.bool false) cs
  | '-' :: cs => Number.unsigned true cs
  | cs => Number.unsigned false cs

/-- Reads a value whose brackets may be nested less than `depth` deep. -/
def value : (depth : Nat) → Reader Json
  | 0 => fun _ => .error .form
  | depth + 1 => fun cs =>
    match skipBlank cs with
    | '[' :: rest => do
      if depth = 0 then throw .form
      let (xs, rest) ← items (fun acc cs => do
        let (v, rest) ← value depth cs
        return (v :: acc, rest)) [] rest
      return (.array xs.reverse, rest)
    | '\x7b' :: rest => do
      if depth = 0 then throw .form
      let (ms, rest) ← members afterQuote (fun acc key cs => do
        let (v, rest) ← value depth (← afterColon cs)
        return ((key, v) :: acc, rest)) [] rest
      return (.object ms.reverse, rest)
    | cs => scalar cs

/-- One more than the greatest number of brackets around a value. -/
def maxDepth : Nat := 128

/-- The value of a text that holds nothing else. -/
def parse (s : String) : Except Fault Json := do
  let (v, rest) ← value maxDepth s.toList
  if skipBlank rest = [] then return v else throw .form

end LedgerGateway.Json
