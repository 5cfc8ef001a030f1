import LedgerGateway.Toml
import LedgerGateway.Toml.Number

/-! Reading whole documents: one definition or header a line. -/

namespace LedgerGateway.Toml

def isBare (c : Char) : Bool := c.isAlphanum || c == '_' || c == '-'

/-- One part of a key. -/
def keyPart : Reader String
  | '"' :: cs => Text.line ('"' :: cs)
  | '\'' :: cs => Text.line ('\'' :: cs)
  | cs =>
    let word := cs.takeWhile isBare
    if word.isEmpty then none else some (String.ofList word, cs.dropWhile isBare)

/-- How many brackets may stand around a value, and how many parts a key may have. -/
def maxDepth : Nat := 79

/-- At most `left` parts of a key, with points and blanks between them: the parts before the last
one, and the last one. -/
def keyWithin : (left : Nat) → Reader (List String × String)
  | 0, _ => none
  | left + 1, cs => do
    let (part, rest) ← keyPart (skipBlank cs)
    match skipBlank rest with
    | '.' :: rest => do
      let ((path, last), rest) ← keyWithin left rest
      return ((part :: path, last), rest)
    | rest => return (([], part), rest)

def key : Reader (List String × String) := keyWithin maxDepth

/-- A comment, up to but without the end of its line. -/
def skipComment (cs : List Char) : List Char :=
  match cs with
  | '#' :: rest => rest.dropWhile isPlain
  | cs => cs

/-- The text after blanks, a comment and the end of the line or of the document. -/
def endLine (cs : List Char) : Option (List Char) :=
  match skipComment (skipBlank cs) with
  | [] => some []
  | rest => newline? rest

/-- Skips blanks, comments and ends of lines, as there may be between the items of an array. -/
def skipSpace : (fuel : Nat) → List Char → Option (List Char)
  | 0, cs => some cs
  | fuel + 1, cs =>
    match skipBlank cs with
    | '#' :: rest => do skipSpace fuel (← newline? (rest.dropWhile isPlain))
    | '\r' :: rest => do skipSpace fuel (← newline? ('\r' :: rest))
    | '\n' :: rest => skipSpace fuel rest
    | rest => some rest

def word (letters : List Char) (value : Json) : Reader Json := fun cs =>
  if letters.isPrefixOf cs then some (value, cs.drop letters.length) else none

/-- The items of an array after its opening bracket; a comma may follow the last one. -/
def items (item : Reader Json) : (fuel : Nat) → (taken : List Json) → Reader Json
  | 0, _, _ => none
  | fuel + 1, taken, cs => do
    match ← skipSpace cs.length cs with
    | ']' :: rest => return (.array taken.reverse, rest)
    | cs => do
      let (v, rest) ← item cs
      match ← skipSpace rest.length rest with
      | ',' :: rest => items item fuel (v :: taken) rest
      | ']' :: rest => return (.array (v :: taken).reverse, rest)
      | _ => none

/-- One definition: a key, the equals sign and a value. -/
def definition (item : Reader Json) : Reader ((List String × String) × Json) := fun cs => do
  let (k, rest) ← key cs
  match rest with
  | '=' :: rest => do
    let (v, rest) ← item (skipBlank rest)
    return ((k, v), rest)
  | _ => none

/-- The further definitions of a table on one line, each after a comma. -/
def moreDefinitions (item : Reader Json) : (fuel : Nat) → Members → Reader Members
  | 0, _, _ => none
  | fuel + 1, ms, cs =>
    match skipBlank cs with
    | '\x7d' :: rest => some (ms, rest)
    | ',' :: rest => do
      let (((path, k), v), rest) ← definition item rest
      moreDefinitions item fuel (← Entry.define path k v ms) rest
    | _ => none

/-- A table on one line, after its opening brace. -/
def lineTable (item : Reader Json) : Reader Json := fun cs =>
  match skipBlank cs with
  | '\x7d' :: rest => some (.object [], rest)
  | cs => do
    let (((path, k), v), rest) ← definition item cs
    let (ms, rest) ← moreDefinitions item rest.length (← Entry.define path k v []) rest
    return (.object (Entry.membersToJson ms), rest)

/-- A value without brackets. -/
def scalar (cs : List Char) : Option (Json × List Char) :=
  match cs with
  | '"' :: _ | '\'' :: _ => (Text.any cs).map fun r => (.text r.1, r.2)
  | 't' :: rest => word ['r', 'u', 'e'] (.bool true) rest
  | 'f' :: rest => word ['a', 'l', 's', 'e'] (.bool false) rest
  | cs => number cs

/-- A value with at most `depth` brackets around each part of it. -/
def value : (depth : Nat) → Reader Json
  | 0, cs => scalar cs
  | depth + 1, cs =>
    match cs with
    | '[' :: rest => items (value depth) (rest.length + 1) [] rest
    | '\x7b' :: rest => lineTable (value depth) rest
    | cs => scalar cs

/-- The document so far: its tables, and the header that definitions belong to. -/
structure Document where
  root : Members
  header : List String

namespace Document

/-- Defines a key below the current header. -/
def define (d : Document) (path : List String) (k : String) (v : Json) : Option Document := do
  let root ← Entry.update false (fun _ ms => Entry.define path k v ms) d.header false d.root
  return { d with root }

def openTable (d : Document) (path : List String) (k : String) : Option Document := do
  return ⟨← Entry.openTable path k d.root, path ++ [k]⟩

def addTable (d : Document) (path : List String) (k : String) : Option Document := do
  return ⟨← Entry.addTable path k d.root, path ++ [k]⟩

/-- Reads a header after its opening brackets. -/
def headerLine (close : List Char) (define : List String → String → Option Document) :
    Reader Document := fun cs => do
  let ((path, k), rest) ← key cs
  if close.isPrefixOf rest then return (← define path k, ← endLine (rest.drop close.length))
  else none

/-- Reads one line that is not empty. -/
def line (d : Document) : Reader Document
  | '[' :: '[' :: cs => headerLine [']', ']'] d.addTable cs
  | '[' :: cs => headerLine [']'] d.openTable cs
  | cs => do
    let (((path, k), v), rest) ← definition (value maxDepth) cs
    return (← d.define path k v, ← endLine rest)

/-- Reads the lines up to the end. -/
def lines : (fuel : Nat) → Document → List Char → Option Document
  | 0, d, cs => if cs.isEmpty then some d else none
  | fuel + 1, d, cs =>
    match skipBlank cs with
    | [] => some d
    | '#' :: rest => do lines fuel d (← endLine ('#' :: rest))
    | '\n' :: rest => lines fuel d rest
    | '\r' :: rest => do lines fuel d (← newline? ('\r' :: rest))
    | cs => do
      let (d, rest) ← d.line cs
      lines fuel d rest

end Document

/-- The text without the mark of its encoding. -/
def withoutMark : List Char → List Char
  | '\ufeff' :: cs => cs
  | cs => cs

/-- The object that a document writes. -/
def parse? (s : String) : Option Json := do
  let cs := withoutMark s.toList
  let d ← Document.lines (cs.length + 1) ⟨[], []⟩ cs
  return .object (Entry.membersToJson d.root)

end LedgerGateway.Toml
