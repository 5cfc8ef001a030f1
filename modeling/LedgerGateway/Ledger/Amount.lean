import LedgerGateway.Decimal

/-! Amounts of a currency and their one decimal text. -/

namespace LedgerGateway

structure Currency where
  symbol : String
  decimals : UInt32
  deriving DecidableEq

/-- The currency of the chain. -/
def Currency.native : Currency := ⟨"IOTX", 18⟩

structure Amount where
  value : Int
  currency : Currency
  deriving DecidableEq

/-- Why a text is no amount. -/
inductive AmountFault where
  | invalid (text : String)
  | notCanonical (text : String)
  deriving DecidableEq

def AmountFault.message : AmountFault → String
  | .invalid text => "invalid decimal amount '" ++ text ++ "'"
  | .notCanonical text => "non-canonical decimal amount '" ++ text ++ "'"

namespace Amount

/-- Splits one minus sign off a text. -/
def splitSign : List Char → Bool × List Char
  | '-' :: digits => (true, digits)
  | digits => (false, digits)

/-- Reads an amount: digits without zeros in front, after at most one minus sign. -/
def readValue (s : String) : Except AmountFault Int :=
  let (negative, digits) := splitSign s.toList
  match Decimal.nat? digits with
  | none => .error (.invalid s)
  | some n =>
    if 1 < digits.length ∧ digits.head? = some '0' then .error (.notCanonical s)
    else .ok (if negative then -n else n)

/-- The text of an amount. -/
def valueText (v : Int) : String := Decimal.intText v

end Amount

end LedgerGateway
