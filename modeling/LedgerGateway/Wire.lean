import LedgerGateway.Bytes

/-! A binary format of numbered fields. A field is a key, which joins its number and the form of its
value, and the value: a number in base 128, or a length and that many octets. Readers return the
octets that are left. -/

namespace LedgerGateway.Wire

/-- The form of a value. -/
inductive Form where
  | varint
  | sixtyFourBit
  | delimited
  | startGroup
  | endGroup
  | thirtyTwoBit
  deriving DecidableEq

namespace Form

def code : Form → Nat
  | varint => 0
  | sixtyFourBit => 1
  | delimited => 2
  | startGroup => 3
  | endGroup => 4
  | thirtyTwoBit => 5

def ofCode? : Nat → Option Form
  | 0 => some varint
  | 1 => some sixtyFourBit
  | 2 => some delimited
  | 3 => some startGroup
  | 4 => some endGroup
  | 5 => some thirtyTwoBit
  | _ => none

def name : Form → String
  | varint => "Varint"
  | sixtyFourBit => "SixtyFourBit"
  | delimited => "LengthDelimited"
  | startGroup => "StartGroup"
  | endGroup => "EndGroup"
  | thirtyTwoBit => "ThirtyTwoBit"

end Form

/-- Why octets are no message. -/
inductive Reason where
  | badVarint
  | badKey (value : Nat)
  | badForm (code : Nat)
  | badNumber
  | otherForm (got wanted : Form)
  | underflow
  | overrun
  | notText
  | unopenedGroup
  | tooDeep
  deriving DecidableEq

def Reason.message : Reason → String
  | .badVarint => "invalid varint"
  | .badKey value => "invalid key value: " ++ toString value
  | .badForm code => "invalid wire type value: " ++ toString code
  | .badNumber => "invalid tag value: 0"
  | .otherForm got wanted =>
    "invalid wire type: " ++ got.name ++ " (expected " ++ wanted.name ++ ")"
  | .underflow => "buffer underflow"
  | .overrun => "delimited length exceeded"
  | .notText => "invalid string value: data is not UTF-8 encoded"
  | .unopenedGroup => "unexpected end group tag"
  | .tooDeep => "recursion limit reached"

/-- A reason and the fields around the fault, innermost first. -/
structure Fault where
  path : List (String × String)
  reason : Reason
  deriving DecidableEq

def Fault.message (f : Fault) : String :=
  "failed to decode Protobuf message: " ++
    String.join (f.path.map fun p => p.1 ++ "." ++ p.2 ++ ": ") ++ f.reason.message

/-- A reader takes a value off the front of the octets. -/
abbrev Reader (α : Type) := Bytes → Except Fault (α × Bytes)

/-- Fails without a path. -/
def fail {α : Type} (reason : Reason) : Except Fault α := .error ⟨[], reason⟩

/-- Adds the enclosing field to the path of a fault. -/
def within {α : Type} (message field : String) : Except Fault α → Except Fault α
  | .ok a => .ok a
  | .error f => .error { f with path := f.path ++ [(message, field)] }

/-- Base 128, lowest digit first; all octets but the last are marked by their high bit. -/
def writeVarint (n : Nat) : Bytes :=
  if n < 128 then [UInt8.ofNat n] else UInt8.ofNat (n % 128 + 128) :: writeVarint (n / 128)

/-- Reads at most `left` octets. The last one that is allowed may only hold the highest bit of
64. -/
def varintWithin : (left : Nat) → Reader Nat
  | 0, _ => fail .badVarint
  | _ + 1, [] => fail .badVarint
  | left + 1, b :: rest =>
    if b.toNat < 128 then
      if left = 0 ∧ 1 < b.toNat then fail .badVarint else .ok (b.toNat, rest)
    else do
      let (high, rest) ← varintWithin left rest
      return (b.toNat - 128 + 128 * high, rest)

/-- A number below `2 ^ 64`; leading zero digits are allowed. -/
def readVarint : Reader Nat := varintWithin 10

/-- The number of a field and the form of its value. -/
structure Key where
  number : Nat
  form : Form
  deriving DecidableEq

def writeKey (k : Key) : Bytes := writeVarint (k.number * 8 + k.form.code)

def readKey : Reader Key := fun b => do
  let (value, rest) ← readVarint b
  if UInt32.size ≤ value then fail (.badKey value)
  match Form.ofCode? (value % 8) with
  | none => fail (.badForm (value % 8))
  | some form => if value / 8 = 0 then fail .badNumber else return (⟨value / 8, form⟩, rest)

/-- The octets after a length. A length may reach beyond the enclosing message, but not
beyond the input. -/
def readDelimited : Reader Bytes := fun b => do
  let (length, rest) ← readVarint b
  if rest.length < length then fail .underflow
  return (rest.take length, rest.drop length)

def writeDelimited (b : Bytes) : Bytes := writeVarint b.length ++ b

/-- Skips as many octets. -/
def drop (count : Nat) (b : Bytes) : Except Fault Bytes :=
  if b.length < count then fail .underflow else .ok (b.drop count)

/-- Skips the fields of a group up to the key that ends it, which must carry the number of the
group. -/
def skipGroup (skip : Key → Bytes → Except Fault Bytes) (number : Nat) :
    (fuel : Nat) → Bytes → Except Fault Bytes
  | 0, _ => fail .badVarint
  | fuel + 1, b => do
    let (key, rest) ← readKey b
    if key.form = .endGroup then
      if key.number = number then return rest else fail .unopenedGroup
    else skipGroup skip number fuel (← skip key rest)

/-- Skips the value of an unknown field, in which groups are nested less than `depth` deep. -/
def skipValue : (depth : Nat) → Key → Bytes → Except Fault Bytes
  | 0, _, _ => fail .tooDeep
  | depth + 1, key, b =>
    match key.form with
    | .varint => do return (← readVarint b).2
    | .sixtyFourBit => drop 8 b
    | .thirtyTwoBit => drop 4 b
    | .delimited => do return (← readDelimited b).2
    | .startGroup => skipGroup (skipValue depth) key.number (b.length + 1) b
    | .endGroup => fail .unopenedGroup

end LedgerGateway.Wire
