/-! Media types, as far as needed to tell whether a body is JSON. -/

namespace LedgerGateway.MediaType

/-- The characters of names. -/
def isToken (c : Char) : Bool := c.isAlphanum || "!#$%&'*+-.^_|~\x60".toList.contains c

/-- A character inside a quoted value. -/
def isQuotable (c : Char) : Bool := 0x20 ≤ c.toNat && c.toNat < 0x7f

/-- Skips what may follow a quoted value: blanks, and the semicolon before a further parameter. -/
def afterQuoted : List Char → Option (List Char)
  | ' ' :: cs => afterQuoted cs
  | ';' :: cs => some cs
  | [] => some []
  | _ => none

/-- Skips a value up to the next parameter. A quoted value has at least one character. -/
def skipValue (cs : List Char) : Option (List Char) :=
  match cs with
  | '"' :: first :: quoted =>
    if !isQuotable first then none
    else
      match quoted.dropWhile fun c => isQuotable c && c != '"' with
      | '"' :: rest => afterQuoted rest
      | _ => none
  | cs =>
    match cs.dropWhile isToken with
    | [] => some []
    | ';' :: rest => if (cs.takeWhile isToken).isEmpty then none else some rest
    | _ => none

/-- Whether parameters are well formed: a name, an equals sign and a value each. -/
def areParameters : (fuel : Nat) → List Char → Bool
  | 0, cs => cs.isEmpty
  | _ + 1, [] => true
  | fuel + 1, ' ' :: cs => areParameters fuel cs
  | fuel + 1, cs =>
    match cs.dropWhile isToken with
    | '=' :: rest =>
      if (cs.takeWhile isToken).isEmpty then false
      else
        match skipValue rest with
        | some rest => areParameters fuel rest
        | none => false
    | _ => false

/-- The parts of a subtype around its last plus sign, which does not stand first. -/
def splitSuffix (subtype : List Char) : List Char × Option (List Char) :=
  let suffix := (subtype.reverse.takeWhile (· != '+')).reverse
  let before := subtype.take (subtype.length - suffix.length - 1)
  if before.isEmpty then (subtype, none) else (before, some suffix)

/-- Whether a subtype is JSON, or some other format that is written in JSON. -/
def isJsonSubtype (subtype : List Char) : Bool :=
  let json := ['j', 's', 'o', 'n']
  let (before, suffix) := splitSuffix subtype
  before == json || suffix == some json

/-- Whether a content type is JSON, in any case of letters and with any parameters. -/
def isJson (s : String) : Bool :=
  let cs := s.toList.map Char.toLower
  let type := cs.takeWhile isToken
  match cs.dropWhile isToken with
  | '/' :: rest =>
    let subtype := rest.takeWhile isToken
    let good := match rest.dropWhile isToken with
      | [] => true
      | ';' :: parameters => !subtype.isEmpty && areParameters (parameters.length + 1) parameters
      | _ => false
    type == "application".toList && good && isJsonSubtype subtype
  | _ => false

end LedgerGateway.MediaType
