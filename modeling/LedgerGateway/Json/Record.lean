import LedgerGateway.Address
import LedgerGateway.Json
import LedgerGateway.Ledger.Amount

/-! Reading structures out of JSON. A structure is an object, of which unknown members are ignored
and no known one may come twice, or an array of its fields in order. Of several faults the one that
stands first is reported. -/

namespace LedgerGateway.Json

/-- Why a value does not fit a type. -/
inductive Mismatch where
  | shape
  | amount (fault : AmountFault)
  | address (error : AddressError)
  deriving DecidableEq

/-- A value of the type, or why there is none. -/
abbrev Fit (α : Type) := Except Mismatch α

/-! ### Plain values -/

def asText : Json → Fit String
  | .text s => .ok s
  | _ => .error .shape

def asBool : Json → Fit Bool
  | .bool b => .ok b
  | _ => .error .shape

/-- An integer from `low` up to, but without, `high`. -/
def asInteger (low high : Int) : Json → Fit Int
  | .integer n => if low ≤ n ∧ n < high then .ok n else .error .shape
  | _ => .error .shape

def asUInt64 (j : Json) : Fit UInt64 :=
  (asInteger 0 0x10000000000000000 j).map fun n => .ofNat n.toNat
def asUInt32 (j : Json) : Fit UInt32 := (asInteger 0 0x100000000 j).map fun n => .ofNat n.toNat
def asUInt16 (j : Json) : Fit UInt16 := (asInteger 0 0x10000 j).map fun n => .ofNat n.toNat
def asInt64 (j : Json) : Fit Int64 :=
  (asInteger (-0x8000000000000000) 0x8000000000000000 j).map Int64.ofInt
def asInt32 (j : Json) : Fit Int32 := (asInteger (-0x80000000) 0x80000000 j).map Int32.ofInt

/-- Any number; an integer is rounded. -/
def asBinary : Json → Fit Binary64
  | .binary x => .ok x
  | .integer n => .ok (.ofInt n)
  | _ => .error .shape

def asList {α : Type} (item : Json → Fit α) : Json → Fit (List α)
  | .array xs => xs.mapM item
  | _ => .error .shape

/-- The members of an object of any content. -/
def asMembers : Json → Fit (List (String × Json))
  | .object ms => .ok ms
  | _ => .error .shape

/-- What may stand behind a name that is the only key of an object: null, or an empty object too. -/
inductive Filler where
  | null
  | nullOrEmpty
  deriving DecidableEq

def Filler.admits : Filler → Json → Bool
  | _, .null => true
  | .nullOrEmpty, .object [] => true
  | _, _ => false

def nameOf {α : Type} (ofName? : String → Option α) (s : String) : Fit α :=
  match ofName? s with
  | some a => .ok a
  | none => .error .shape

/-- One of several names, alone or as the only key of an object. -/
def asName {α : Type} (filler : Filler) (ofName? : String → Option α) : Json → Fit α
  | .text s => nameOf ofName? s
  | .object [(s, j)] => if filler.admits j then nameOf ofName? s else .error .shape
  | _ => .error .shape

def asOption {α : Type} (read : Json → Fit α) : Json → Fit (Option α)
  | .null => .ok none
  | j => (read j).map some

def asAddress (j : Json) : Fit Address := do
  (Address.ofText (← asText j)).mapError .address

/-! ### Records -/

/-- A value, or the fault that stands first and its place. -/
def Reading (α : Type) := Except (Nat × Mismatch) α

namespace Reading

/-- A fault unless an earlier one is known. -/
def earlier (a b : Nat × Mismatch) : Nat × Mismatch := if b.1 < a.1 then b else a

def app {α β : Type} (f : Reading (α → β)) (a : Reading α) : Reading β :=
  match f, a with
  | .ok f, .ok a => .ok (f a)
  | .ok _, .error e => .error e
  | .error e, .ok _ => .error e
  | .error e, .error e' => .error (earlier e e')

instance : Applicative Reading where
  pure a := .ok a
  seq f a := app f (a ())

end Reading

/-- The known fields that a value has, each with its place, and how many places there are. -/
structure Record where
  slots : List (String × Nat × Json)
  size : Nat

namespace Record

/-- The value of a field and its place. -/
def slot? (r : Record) (name : String) : Option (Nat × Json) :=
  (r.slots.find? fun s => s.1 == name).map Prod.snd

/-- Reads a field that must be there. -/
def required {α : Type} (r : Record) (name : String) (read : Json → Fit α) : Reading α :=
  match r.slot? name with
  | some (place, j) => (read j).mapError fun e => (place, e)
  | none => .error (r.size, .shape)

/-- Reads a field that stands for a given value when it is not there. -/
def withDefault {α : Type} (r : Record) (name : String) (default : α) (read : Json → Fit α) :
    Reading α :=
  match r.slot? name with
  | some (place, j) => (read j).mapError fun e => (place, e)
  | none => .ok default

/-- Reads a field that may be null or not there. -/
def optional {α : Type} (r : Record) (name : String) (read : Json → Fit α) : Reading (Option α) :=
  r.withDefault name none (asOption read)

/-- Whether a name comes twice. -/
def hasRepeated : List String → Bool
  | [] => false
  | n :: rest => rest.contains n || hasRepeated rest

/-- Reads members as a record with the given fields. -/
def ofMembers {α : Type} (names : List String) (build : Record → Reading α)
    (ms : List (String × Json)) : Fit α :=
  let known := ms.zipIdx.filterMap fun (m, place) =>
    if names.contains m.1 then some (m.1, place, m.2) else none
  if hasRepeated (known.map Prod.fst) then .error .shape
  else Except.mapError Prod.snd (build ⟨known, ms.length⟩)

/-- Reads items as the fields in order; there may be no further item. -/
def ofItems {α : Type} (names : List String) (build : Record → Reading α) (xs : List Json) :
    Fit α := do
  let slots := (names.zip xs).zipIdx.map fun ((name, j), place) => (name, place, j)
  let a ← Except.mapError Prod.snd (build ⟨slots, xs.length⟩)
  if names.length < xs.length then throw .shape else return a

/-- Reads an object or an array as a record with the given fields. -/
def read {α : Type} (names : List String) (build : Record → Reading α) : Json → Fit α
  | .object ms => ofMembers names build ms
  | .array xs => ofItems names build xs
  | _ => .error .shape

end Record

end LedgerGateway.Json
