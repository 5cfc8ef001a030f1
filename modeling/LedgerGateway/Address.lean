import LedgerGateway.Address.Bech32
import LedgerGateway.Bytes.Hex
import LedgerGateway.Hash
import LedgerGateway.Key.Public
import LedgerGateway.Text.Blank

/-! Account addresses: 20 octets with a native checksummed text and a base-16 text. -/

namespace LedgerGateway

/-- An account address. -/
abbrev Address := Octets 20

inductive AddressError where
  | empty
  | bech32 (fault : Bech32.Fault)
  | head (got : String)
  | hex (fault : Hex.Fault)
  | length (got : Nat)
  deriving DecidableEq

def AddressError.message : AddressError → String
  | .empty => "empty address"
  | .bech32 fault => "bech32 decode error: " ++ fault.message
  | .head got => "invalid HRP: expected 'io', got '" ++ got ++ "'"
  | .hex fault => "invalid hex address: " ++ fault.message
  | .length got => "invalid address data length: expected 20 bytes, got " ++ toString got

namespace Address

/-- The head of native addresses. -/
def head : List Char := ['i', 'o']

def ofBytes (b : Bytes) : Except AddressError Address :=
  match Octets.ofBytes? 20 b with
  | some a => .ok a
  | none => .error (.length b.length)

/-- The native text. -/
def text (a : Address) : String := String.ofList (Bech32.encode head a.bytes)

/-- The base-16 text with its mark. -/
def hexText (a : Address) : String := "0x" ++ Hex.encode a.bytes

/-- The form for logs. -/
def shown (a : Address) : String := "Address(" ++ a.text ++ ")"

/-- Reads either text. A mark `0x` or `0X` selects base 16; the head of a native text may be
in either case. -/
def ofChars : List Char → Except AddressError Address
  | [] => .error .empty
  | cs =>
    match cs with
    | '0' :: 'x' :: digits | '0' :: 'X' :: digits =>
      match Hex.decode (String.ofList digits) with
      | .error fault => .error (.hex fault)
      | .ok b => ofBytes b
    | _ =>
      match Bech32.decode cs with
      | .error fault => .error (.bech32 fault)
      | .ok (got, b) =>
        if got.map Char.toLower = head then ofBytes b else .error (.head (String.ofList got))

/-- Reads either text with blanks around it. -/
def ofText (s : String) : Except AddressError Address := ofChars (Text.trimChars s.toList)

/-- The account of a public key: the end of the digest of both coordinates. -/
def ofKey (k : PublicKey) : Address :=
  ⟨(Hash.keccak256 (k.uncompressed.drop 1)).bytes.drop 12,
   by rw [List.length_drop, (Hash.keccak256 (k.uncompressed.drop 1)).length_eq]⟩

/-- The pool that receives gas fees and pays rewards. -/
def rewardingPool : Address := Hash.digest160 (Bytes.ofText "rewarding")

/-- The pool that holds staked amounts. -/
def stakingPool : Address := Hash.digest160 (Bytes.ofText "staking")

end Address

end LedgerGateway
