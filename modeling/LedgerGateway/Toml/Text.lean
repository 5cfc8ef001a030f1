import LedgerGateway.Json.Parser

/-! The quoted texts of documents: with escapes or literally, and each on one line or on several. -/

namespace LedgerGateway.Toml

/-- A reader takes a value off the front of a text. -/
abbrev Reader (α : Type) := List Char → Option (α × List Char)

def skipBlank (cs : List Char) : List Char := cs.dropWhile fun c => c == ' ' || c == '\t'

/-- Whether a character may stand for itself: any but the control characters; tabs may. -/
def isPlain (c : Char) : Bool := c == '\t' || (0x20 ≤ c.toNat && c.toNat != 0x7f)

/-- The text after the end of a line. -/
def newline? : List Char → Option (List Char)
  | '\n' :: rest => some rest
  | '\r' :: '\n' :: rest => some rest
  | _ => none

namespace Text

/-- Base-16 digits of a given number. -/
def hexDigits? : (count : Nat) → (value : Nat) → Reader Nat
  | 0, value, cs => some (value, cs)
  | count + 1, value, c :: cs => do hexDigits? count (value * 16 + (← Json.hexDigit? c)) cs
  | _ + 1, _, [] => none

/-- The character of a number that is no half of a pair. -/
def numbered? (count : Nat) (cs : List Char) : Option (Char × List Char) := do
  let (n, rest) ← hexDigits? count 0 cs
  if n < 0xd800 ∨ (0xe000 ≤ n ∧ n < 0x110000) then some (Char.ofNat n, rest) else none

/-- The character of an escape, after its backslash. -/
def escape? : Reader Char
  | 'b' :: cs => some ('\x08', cs)
  | 't' :: cs => some ('\t', cs)
  | 'n' :: cs => some ('\n', cs)
  | 'f' :: cs => some ('\x0c', cs)
  | 'r' :: cs => some ('\r', cs)
  | '"' :: cs => some ('"', cs)
  | '\\' :: cs => some ('\\', cs)
  | 'u' :: cs => numbered? 4 cs
  | 'U' :: cs => numbered? 8 cs
  | _ => none

/-- A text with escapes on one line, after its opening quote. -/
def basic : (fuel : Nat) → (taken : List Char) → Reader String
  | 0, _, _ => none
  | fuel + 1, taken, cs =>
    match cs with
    | '"' :: rest => some (String.ofList taken.reverse, rest)
    | '\\' :: rest => do
      let (c, rest) ← escape? rest
      basic fuel (c :: taken) rest
    | c :: rest => if isPlain c then basic fuel (c :: taken) rest else none
    | [] => none

/-- A literal text on one line, after its opening quote. -/
def literal : (taken : List Char) → Reader String
  | taken, '\'' :: rest => some (String.ofList taken.reverse, rest)
  | taken, c :: rest => if isPlain c then literal (c :: taken) rest else none
  | _, [] => none

/-- Skips blanks and ends of lines. -/
def skipLines : (fuel : Nat) → List Char → List Char
  | 0, cs => cs
  | fuel + 1, cs =>
    match newline? (skipBlank cs) with
    | some rest => skipLines fuel rest
    | none => skipBlank cs

/-- The text after a line that a backslash has joined to the next ones. -/
def joined? (cs : List Char) : Option (List Char) :=
  (newline? (skipBlank cs)).map fun rest => skipLines rest.length rest

/-- Looks for the three quotes that end a text of several lines; up to two more before them
belong to it. -/
def closing? (quote : Char) (taken : List Char) : List Char → Option (List Char × List Char)
  | a :: b :: c :: rest =>
    if a = quote ∧ b = quote ∧ c = quote then
      match rest with
      | d :: e :: rest' =>
        if d = quote ∧ e = quote then some (quote :: quote :: taken, rest')
        else if d = quote then some (quote :: taken, e :: rest')
        else some (taken, rest)
      | [d] => if d = quote then some (quote :: taken, []) else some (taken, rest)
      | [] => some (taken, [])
    else none
  | _ => none

/-- A text with escapes on several lines. -/
def basicLines : (fuel : Nat) → (taken : List Char) → Reader String
  | 0, _, _ => none
  | fuel + 1, taken, cs =>
    match closing? '"' taken cs with
    | some (taken, rest) => some (String.ofList taken.reverse, rest)
    | none =>
      match cs with
      | '\\' :: rest =>
        match joined? rest with
        | some rest => basicLines fuel taken rest
        | none => do
          let (c, rest) ← escape? rest
          basicLines fuel (c :: taken) rest
      | c :: rest =>
        match newline? cs with
        | some rest => basicLines fuel ('\n' :: taken) rest
        | none => if isPlain c then basicLines fuel (c :: taken) rest else none
      | [] => none

/-- A literal text on several lines. -/
def literalLines : (fuel : Nat) → (taken : List Char) → Reader String
  | 0, _, _ => none
  | fuel + 1, taken, cs =>
    match closing? '\'' taken cs with
    | some (taken, rest) => some (String.ofList taken.reverse, rest)
    | none =>
      match newline? cs with
      | some rest => literalLines fuel ('\n' :: taken) rest
      | none =>
        match cs with
        | c :: rest => if isPlain c then literalLines fuel (c :: taken) rest else none
        | [] => none

/-- A text of several lines may begin on the line after its quotes. -/
def afterQuotes (cs : List Char) : List Char := (newline? cs).getD cs

/-- Any text on one line, as keys are. -/
def line : Reader String
  | '"' :: cs => basic (cs.length + 1) [] cs
  | '\'' :: cs => literal [] cs
  | _ => none

/-- Any text. -/
def any : Reader String
  | '"' :: '"' :: '"' :: cs => basicLines (cs.length + 1) [] (afterQuotes cs)
  | '\'' :: '\'' :: '\'' :: cs => literalLines (cs.length + 1) [] (afterQuotes cs)
  | cs => line cs

end Text

end LedgerGateway.Toml
