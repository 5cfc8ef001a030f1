import LedgerGateway.Bytes.Bits

/-! Checksummed text of two parts: a readable head, the digit `1`, and data in an alphabet of
32 characters whose last six are a checksum. Two checksums are in use, which differ in their
final constant. -/

namespace LedgerGateway.Bech32

/-- The characters of the 32 data values, in order. -/
def alphabet : List Char := "qpzry9x8gf2tvdw0s3jn54khce6mua7l".toList

theorem length_alphabet : alphabet.length = 32 := by decide

/-- The lower-case character of a value. -/
def character (v : Fin 32) : Char := alphabet.get ⟨v.val, by rw [length_alphabet]; exact v.isLt⟩

/-- The value of a character in either case. -/
def value? (c : Char) : Option (Fin 32) :=
  (List.finRange 32).find? fun v => character v == c.toLower

/-- The remainders by which the five high bits of a state are replaced. -/
def generators : List UInt32 := [0x3b6a57b2, 0x26508e6d, 0x1ea119fa, 0x3d4233dd, 0x2a1462b3]

/-- Appends a value to the polynomial and reduces. -/
def step (state : UInt32) (v : UInt32) : UInt32 :=
  let top := state >>> 25
  (generators.zipIdx).foldl
    (fun s (g, i) => if (top >>> UInt32.ofNat i) &&& 1 = 1 then s ^^^ g else s)
    (((state &&& 0x1ffffff) <<< 5) ^^^ v)

def residue (values : List UInt32) : UInt32 := values.foldl step 1

/-- The head as the checksum sees it: the high bits of its characters, a zero, and the low bits. -/
def expandedHead (head : List Char) : List UInt32 :=
  let codes := head.map fun c => c.toLower.val
  codes.map (fun (c : UInt32) => c >>> 5) ++
    (0 : UInt32) :: codes.map (fun (c : UInt32) => c &&& 31)

inductive Variant where
  | plain
  | modified
  deriving DecidableEq

/-- What a text with a correct checksum leaves. -/
def Variant.residue : Variant → UInt32
  | .plain => 1
  | .modified => 0x2bc830a3

/-- Head and data with the checksum at its end leave the constant of the variant. -/
def Checked (variant : Variant) (head : List Char) (data : List (Fin 32)) : Prop :=
  residue (expandedHead head ++ data.map fun v => UInt32.ofNat v.val) = variant.residue

instance (variant : Variant) (head : List Char) (data : List (Fin 32)) :
    Decidable (Checked variant head data) := by unfold Checked; infer_instance

/-- The six values that complete head and data. -/
def checksum (variant : Variant) (head : List Char) (data : List (Fin 32)) : List (Fin 32) :=
  let open6 := expandedHead head ++ data.map (fun v => UInt32.ofNat v.val) ++ List.replicate 6 0
  let left := residue open6 ^^^ variant.residue
  ([25, 20, 15, 10, 5, 0] : List UInt32).map fun shift => Fin.ofNat 32 ((left >>> shift).toNat)

/-- The octets in groups of five bits, the last one filled with zeros. -/
def groups (b : Bytes) : List (Fin 32) :=
  (Bits.wholeGroups 4
    (Bits.ofBytes b ++ List.replicate ((5 - 8 * b.length % 5) % 5) false)).map fun g =>
    Fin.ofNat 32 (Bits.toNat g)

/-- The whole octets in groups of five bits; what is left over after the last one is ignored. -/
def octets (data : List (Fin 32)) : Bytes := Bits.toBytes (data.flatMap fun v => Bits.ofNat 5 v.val)

/-- The lower-case text of octets under a head. -/
def encode (head : List Char) (b : Bytes) : List Char :=
  let data := groups b
  head ++ '1' :: (data ++ checksum .plain head data).map character

inductive Fault where
  | form
  | checksum
  deriving DecidableEq

def Fault.message : Fault → String
  | .form => "parsing failed"
  | .checksum => "no valid bech32 or bech32m checksum"

/-- A head has one to 83 visible ASCII characters. -/
def isHead (head : List Char) : Bool :=
  !head.isEmpty && head.length ≤ 83 && head.all fun c => 33 ≤ c.toNat && c.toNat ≤ 126

/-- The head and the values after the last `1`, unless upper and lower case are mixed. -/
def split? (cs : List Char) : Option (List Char × List (Fin 32)) :=
  let tail := (cs.reverse.takeWhile (· != '1')).reverse
  match cs.reverse.dropWhile (· != '1') with
  | [] => none
  | _ :: head =>
    if isHead head.reverse && !(cs.any Char.isLower && cs.any Char.isUpper) then
      (tail.mapM value?).map fun data => (head.reverse, data)
    else none

/-- Reads head and octets. The checksum must be that of either variant, over at most 1023
characters. -/
def decode (cs : List Char) : Except Fault (List Char × Bytes) :=
  match split? cs with
  | none => .error .form
  | some (head, data) =>
    if cs.length ≤ 1023 ∧ 6 ≤ data.length ∧
        (Checked .plain head data ∨ Checked .modified head data) then
      .ok (head, octets (data.take (data.length - 6)))
    else .error .checksum

end LedgerGateway.Bech32
