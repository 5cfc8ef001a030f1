import LedgerGateway.Binary64

/-! JSON values. A number without point and exponent is an integer when it fits into 64 bits with or
without a sign, and a 64-bit binary number otherwise. -/

namespace LedgerGateway

inductive Json where
  | null
  | bool (value : Bool)
  | integer (value : Int)
  | binary (value : Binary64)
  | text (value : String)
  | array (items : List Json)
  | object (members : List (String × Json))

namespace Json

/-- The value of the last member with the key. -/
def last? (key : String) (members : List (String × Json)) : Option Json :=
  (members.reverse.find? fun m => m.1 == key).map Prod.snd

/-- The members whose value is present. -/
def present (members : List (String × Option Json)) : List (String × Json) :=
  members.filterMap fun m => m.2.map fun v => (m.1, v)

/-- A number from zero to `2 ^ 64 - 1`. -/
def ofWord (n : UInt64) : Json := .integer n.toNat

/-- A number that need not be whole. JSON has no text for one that is not finite, and null stands
in its place. -/
def ofBinary (x : Binary64) : Json := if x.isFinite then .binary x else .null

/-- An integer in the unsigned 64-bit range, written as such. -/
def toWord? : Json → Option UInt64
  | .integer n => if 0 ≤ n ∧ n < 0x10000000000000000 then some (UInt64.ofNat n.toNat) else none
  | _ => none

end Json

end LedgerGateway
