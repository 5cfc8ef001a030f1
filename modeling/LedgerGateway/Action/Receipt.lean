import LedgerGateway.Action.Error

/-! Names of actions, and what a block records about each action. -/

namespace LedgerGateway

/-- The digest of an action, as a name for it. -/
abbrev ActionHash := Digest

namespace ActionHash

def ofBytes (b : Bytes) : Except CodecError ActionHash :=
  match Octets.ofBytes? 32 b with
  | some h => .ok h
  | none => .error (.actionHash (Hex.encode b))

/-- Reads base-16 text with or without a leading `0x`; the error shows the text as it is. -/
def ofText (s : String) : Except CodecError ActionHash :=
  match (Hex.decode (Hex.withoutMark s)).toOption.bind (Octets.ofBytes? 32) with
  | some h => .ok h
  | none => .error (.actionHash s)

def text (h : ActionHash) : String := Hex.encode h.bytes

/-- The form for logs. -/
def shown (h : ActionHash) : String := "ActionHash(" ++ h.text ++ ")"

end ActionHash

/-- What became of an action in its block. -/
structure Receipt where
  actionHash : ActionHash
  status : UInt64
  gasConsumed : UInt64
  contractAddress : Option Address
  deriving DecidableEq

/-- Only the status 1 is a success. -/
def Receipt.isSuccess (r : Receipt) : Bool := r.status == 1

end LedgerGateway
