import LedgerGateway.Wire

/-! Messages as tables of fields. Reading starts from the empty message and lets each field of the
input replace or extend a part of it; writing lists the parts that differ from the empty message. -/

namespace LedgerGateway.Wire

/-- A part of `α` that is written under one or more field numbers. `read` is given how deep messages
may still be nested, and the message so far. -/
structure Field (α : Type) where
  name : String
  numbers : List Nat
  read : (depth : Nat) → α → Key → Reader α
  write : α → Bytes

structure Message (α : Type) where
  name : String
  empty : α
  fields : List (Field α)

namespace Message

variable {α : Type}

/-- Reads the value after a key into the field that the key names; other fields are skipped. -/
def readField (m : Message α) (depth : Nat) (a : α) (key : Key) : Reader α := fun b =>
  match m.fields.find? fun f => f.numbers.contains key.number with
  | some f => within m.name f.name (f.read depth a key b)
  | none => do return (a, ← skipValue depth key b)

/-- Reads fields until at most `left` octets remain. Each field takes at least the octet of its
key. -/
def readFields (m : Message α) (depth left : Nat) : (fuel : Nat) → α → Reader α
  | 0, a, b => .ok (a, b)
  | fuel + 1, a, b =>
    if b.length ≤ left then .ok (a, b)
    else do
      let (key, rest) ← readKey b
      let (a, rest) ← m.readField depth a key rest
      readFields m depth left fuel a rest

/-- The fields in the order of the table. -/
def encode (m : Message α) (a : α) : Bytes := m.fields.flatMap fun f => f.write a

/-- How deep messages may be nested. -/
def maxDepth : Nat := 100

def decode (m : Message α) (b : Bytes) : Except Fault α := do
  return (← m.readFields maxDepth 0 b.length m.empty b).1

/-- Reads a message of known length into `a`; its fields must end where the length says. -/
def readNested (m : Message α) (depth : Nat) (a : α) (key : Key) : Reader α := fun b => do
  if key.form ≠ .delimited then fail (.otherForm key.form .delimited)
  match depth with
  | 0 => fail .tooDeep
  | depth + 1 => do
    let (length, rest) ← readVarint b
    if rest.length < length then fail .underflow
    let left := rest.length - length
    let (a, rest) ← m.readFields depth left rest.length a rest
    if rest.length = left then return (a, rest) else fail .overrun

def writeNested (m : Message α) (number : Nat) (a : α) : Bytes :=
  writeKey ⟨number, .delimited⟩ ++ writeDelimited (m.encode a)

end Message

namespace Field

variable {α β : Type}

/-- A number, left out when zero. `put` keeps as many low bits as the part has. -/
def number (tag : Nat) (name : String) (get : α → Nat) (put : α → Nat → α) : Field α where
  name := name
  numbers := [tag]
  read _ a key b := do
    if key.form ≠ .varint then fail (.otherForm key.form .varint)
    let (n, rest) ← readVarint b
    return (put a n, rest)
  write a := if get a = 0 then [] else writeKey ⟨tag, .varint⟩ ++ writeVarint (get a)

def octets (tag : Nat) (name : String) (get : α → Bytes) (put : α → Bytes → α) : Field α where
  name := name
  numbers := [tag]
  read _ a key b := do
    if key.form ≠ .delimited then fail (.otherForm key.form .delimited)
    let (v, rest) ← readDelimited b
    return (put a v, rest)
  write a := if get a = [] then [] else writeKey ⟨tag, .delimited⟩ ++ writeDelimited (get a)

def text (tag : Nat) (name : String) (get : α → String) (put : α → String → α) : Field α where
  name := name
  numbers := [tag]
  read _ a key b := do
    if key.form ≠ .delimited then fail (.otherForm key.form .delimited)
    let (v, rest) ← readDelimited b
    match Bytes.toText? v with
    | none => fail .notText
    | some s => return (put a s, rest)
  write a :=
    if get a = "" then [] else writeKey ⟨tag, .delimited⟩ ++ writeDelimited (Bytes.ofText (get a))

/-- A nested message that may be absent. One that comes twice extends the first. -/
def nested (tag : Nat) (name : String) (m : Message β) (get : α → Option β) (put : α → β → α) :
    Field α where
  name := name
  numbers := [tag]
  read depth a key b := do
    let (v, rest) ← m.readNested depth ((get a).getD m.empty) key b
    return (put a v, rest)
  write a :=
    match get a with
    | none => []
    | some v => m.writeNested tag v

/-- One alternative of a part: its number and how it is read and written. -/
structure Case (γ : Type) where
  number : Nat
  read : (depth : Nat) → Option γ → Key → Reader γ
  write? : γ → Option Bytes

/-- The alternative that wraps a message. The same alternative met again is extended; another
one starts anew. -/
def Case.of {γ : Type} (tag : Nat) (m : Message β) (wrap : β → γ) (pick : γ → Option β) :
    Case γ where
  number := tag
  read depth c key b := do
    let (v, rest) ← m.readNested depth ((c.bind pick).getD m.empty) key b
    return (wrap v, rest)
  write? c := (pick c).map (m.writeNested tag)

/-- A part with alternatives, of which at most one is present. -/
def oneOf {γ : Type} (name : String) (cases : List (Case γ)) (get : α → Option γ)
    (put : α → γ → α) : Field α where
  name := name
  numbers := cases.map (·.number)
  read depth a key b :=
    match cases.find? fun c => c.number == key.number with
    | none => .ok (a, b)
    | some c => do
      let (v, rest) ← c.read depth (get a) key b
      return (put a v, rest)
  write a :=
    match get a with
    | none => []
    | some v => (cases.findSome? fun c => c.write? v).getD []

end Field

end LedgerGateway.Wire
