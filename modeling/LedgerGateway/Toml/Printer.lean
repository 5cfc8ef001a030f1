import LedgerGateway.Decimal

/-! Writing documents of plain tables. A text is written literally where it can be, and with
escapes otherwise. -/

namespace LedgerGateway.Toml

namespace Quoted

/-- Control characters other than tabs and ends of lines. -/
def isControl (c : Char) : Bool :=
  (c.toNat < 0x20 && c != '\t' && c != '\n') || c.toNat == 0x7f

/-- Whether a character comes three times in a row. -/
def hasTriple (quote : Char) : List Char → Bool
  | a :: b :: c :: rest =>
    (a == quote && b == quote && c == quote) || hasTriple quote (b :: c :: rest)
  | _ => false

def highHexDigit (n : Nat) : Char := if n < 10 then Char.ofNat (48 + n) else Char.ofNat (55 + n)

/-- The escape of a character inside double quotes. The ends of lines stand for themselves in a text
of several lines. -/
def escaped (lines : Bool) (c : Char) : List Char :=
  match c with
  | '\\' => ['\\', '\\']
  | '\t' => ['\\', 't']
  | '\x08' => ['\\', 'b']
  | '\x0c' => ['\\', 'f']
  | '\r' => ['\\', 'r']
  | '"' => ['\\', '"']
  | '\n' => if lines then ['\n'] else ['\\', 'n']
  | c =>
    if isControl c then
      ['\\', 'u', '0', '0', highHexDigit (c.toNat / 16), highHexDigit (c.toNat % 16)]
    else [c]

/-- The escapes of a text of several lines, `quotes` quotes of which stand right before. Quotes
stand for themselves, but the third one in a row would end the text. -/
def escapedLines : (quotes : Nat) → List Char → List Char
  | _, [] => []
  | quotes, c :: cs =>
    if c = '"' ∧ quotes < 2 then c :: escapedLines (quotes + 1) cs
    else escaped true c ++ escapedLines 0 cs

def basic (cs : List Char) : List Char := '"' :: (cs.flatMap (escaped false) ++ ['"'])

def literal (cs : List Char) : List Char := '\'' :: (cs ++ ['\''])

/-- A text of several lines begins on the line after its quotes. -/
def opening (cs : List Char) : List Char := if cs.contains '\n' then ['\n'] else []

def basicLines (cs : List Char) : List Char :=
  ['"', '"', '"'] ++ opening cs ++ escapedLines 0 cs ++ ['"', '"', '"']

def literalLines (cs : List Char) : List Char :=
  ['\'', '\'', '\''] ++ opening cs ++ cs ++ ['\'', '\'', '\'']

/-- The first of these forms that needs no escape but for tabs; otherwise with escapes, on as many
lines as the text has. -/
def chars (cs : List Char) : List Char :=
  let control := cs.any isControl
  let has := fun c => cs.contains c
  if !(control || has '\\' || has '"' || has '\n') then basic cs
  else if !(control || has '\'' || has '\n') then literal cs
  else if !(control || has '\\' || hasTriple '"' cs) then basicLines cs
  else if !(control || hasTriple '\'' cs) then literalLines cs
  else if has '\n' then basicLines cs
  else basic cs

end Quoted

/-- The values that tables are written with. -/
inductive Scalar where
  | text (value : String)
  | integer (value : Int)
  | bool (value : Bool)
  deriving DecidableEq

def Scalar.chars : Scalar → List Char
  | text s => Quoted.chars s.toList
  | integer n => Decimal.intChars n
  | bool b => (if b then "true" else "false").toList

/-- A table with its header. -/
structure Section where
  name : String
  fields : List (String × Scalar)

def Section.chars (s : Section) : List Char :=
  '[' :: (s.name.toList ++ [']', '\n'] ++
    s.fields.flatMap fun f => f.1.toList ++ [' ', '=', ' '] ++ f.2.chars ++ ['\n'])

/-- Tables with an empty line between them. -/
def print (sections : List Section) : String :=
  String.ofList (List.intercalate ['\n'] (sections.map Section.chars))

end LedgerGateway.Toml
