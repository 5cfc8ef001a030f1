import LedgerGateway.Bytes.Hex
import LedgerGateway.Proofs.Outcome
import LedgerGateway.Proofs.Text

/-!
# Octets are read back from base-16 text

Base-16 text is ASCII, so its octets are the codes of its digits. What is written is read back
without loss, and it never begins with a mark that a reader would take off. The texts that are read
are the written ones with their digits in any case (`Hex.decode_eq_ok`).
-/

namespace LedgerGateway

open Outcome

namespace Bytes

theorem toText?_ofText (s : String) : toText? (ofText s) = some s := by
  have same : (⟨(ofText s).toArray⟩ : ByteArray) = s.toByteArray := by
    simp [ofText, String.toUTF8]
  rw [toText?, same, String.fromUTF8?, dif_pos s.isValidUTF8]
  rfl

/-- Octets are the form of the text that was found in them, and of no other. -/
theorem ofText_of_toText? {b : Bytes} {s : String} (h : toText? b = some s) : ofText s = b := by
  unfold toText? String.fromUTF8? at h
  split at h
  · cases h
    simp [ofText, String.toUTF8, String.fromUTF8]
  · cases h

theorem ofText_chars (cs : List Char) :
    ofText (String.ofList cs) = cs.flatMap String.utf8EncodeChar := by
  simp [ofText, String.toUTF8, String.toByteArray_ofList, List.utf8Encode, List.data_toByteArray]

/-- Only the form of an ASCII character begins with an octet below 128. -/
theorem code_of_utf8EncodeChar {c : Char} {d : UInt8} {rest more : Bytes}
    (h : String.utf8EncodeChar c ++ rest = d :: more) (ascii : d.toNat < 128) :
    c.toNat = d.toNat := by
  unfold String.utf8EncodeChar at h
  simp only at h
  split at h
  · rename_i small
    obtain ⟨rfl, -⟩ := List.cons.inj h
    rw [UInt8.toNat_ofNat', Nat.mod_eq_of_lt (by omega)]
    rfl
  · have high : 128 ≤ d.toNat := by
      split at h
      · obtain ⟨rfl, -⟩ := List.cons.inj h
        rw [UInt8.toNat_ofNat']
        omega
      · split at h
        · obtain ⟨rfl, -⟩ := List.cons.inj h
          rw [UInt8.toNat_ofNat']
          omega
        · obtain ⟨rfl, -⟩ := List.cons.inj h
          rw [UInt8.toNat_ofNat']
          omega
    omega

/-- An octet below 128 at the front of a text is its first character. -/
theorem head_of_ofText {s : String} {d : UInt8} {rest : Bytes} (h : ofText s = d :: rest)
    (ascii : d.toNat < 128) : ∃ c cs, s.toList = c :: cs ∧ c.toNat = d.toNat := by
  have octets := ofText_chars s.toList
  rw [String.ofList_toList, h] at octets
  cases text : s.toList with
  | nil =>
    rw [text] at octets
    cases octets
  | cons c cs =>
    rw [text, List.flatMap_cons] at octets
    exact ⟨c, cs, rfl, code_of_utf8EncodeChar octets.symm ascii⟩

/-- The octets of an ASCII text are the codes of its characters. -/
theorem ofText_ofList {cs : List Char} (h : ∀ c ∈ cs, c.toNat < 128) :
    ofText (String.ofList cs) = cs.map fun c => UInt8.ofNat c.toNat := by
  have codes : cs.flatMap String.utf8EncodeChar = cs.map fun c => UInt8.ofNat c.toNat := by
    induction cs with
    | nil => rfl
    | cons c cs ih =>
      obtain ⟨hc, hcs⟩ := List.forall_mem_cons.mp h
      have single : String.utf8EncodeChar c = [UInt8.ofNat c.toNat] := if_pos (Nat.le_of_lt_succ hc)
      rw [List.flatMap_cons, single, ih hcs]
      rfl
  rw [ofText_chars, codes]

/-- A text whose octets are ASCII has ASCII characters only. -/
theorem ascii_of_ofText {s : String} (h : ∀ d ∈ ofText s, d.toNat < 128) :
    ∀ c ∈ s.toList, c.toNat < 128 := by
  intro c hc
  have octets := ofText_chars s.toList
  rw [String.ofList_toList] at octets
  cases form : String.utf8EncodeChar c with
  | nil => exact absurd form (by simp)
  | cons d more =>
    have ascii :=
      h d (by rw [octets]; exact List.mem_flatMap.mpr ⟨c, hc, form ▸ List.mem_cons_self⟩)
    have only : String.utf8EncodeChar c ++ [] = d :: more := by rw [List.append_nil, form]
    have code := code_of_utf8EncodeChar only ascii
    omega

end Bytes

namespace Hex

theorem digit_value {n : Nat} (h : n < 16) :
    (digit n).toNat < 128 ∧ digit n ≠ 'x' ∧ digitValue? (UInt8.ofNat (digit n).toNat) = some n := by
  have all : ∀ n : Fin 16, (digit n).toNat < 128 ∧ digit n ≠ 'x' ∧
      digitValue? (UInt8.ofNat (digit n).toNat) = some n := by decide
  exact all ⟨n, h⟩

theorem mem_digits {b : Bytes} {c : Char} (h : c ∈ digits b) : ∃ n < 16, c = digit n := by
  obtain ⟨d, -, hd⟩ := List.mem_flatMap.mp h
  have small := d.toNat_lt
  rcases List.mem_cons.mp hd with rfl | hd
  · exact ⟨_, by omega, rfl⟩
  · exact ⟨_, Nat.mod_lt _ (by decide), List.mem_singleton.mp hd⟩

theorem ofText_encode (b : Bytes) :
    Bytes.ofText (encode b) = (digits b).map fun c => UInt8.ofNat c.toNat := by
  apply Bytes.ofText_ofList
  intro c hc
  obtain ⟨n, hn, rfl⟩ := mem_digits hc
  exact (digit_value hn).1

theorem length_digits (b : Bytes) : (digits b).length = 2 * b.length := by
  simp [digits, List.length_flatMap, Nat.mul_comm]

theorem length_encode (b : Bytes) : (encode b).length = 2 * b.length := by
  rw [encode, String.length_ofList, length_digits]

theorem readPairs_digits (b : Bytes) (position : Nat) :
    readPairs position ((digits b).map fun c => UInt8.ofNat c.toNat) = .ok b := by
  induction b generalizing position with
  | nil => rfl
  | cons d b ih =>
    have small := d.toNat_lt
    obtain ⟨-, -, high⟩ := digit_value (n := d.toNat / 16) (by omega)
    obtain ⟨-, -, low⟩ := digit_value (n := d.toNat % 16) (by omega)
    have whole : 16 * (d.toNat / 16) + d.toNat % 16 = d.toNat := Nat.div_add_mod _ _
    simp only [digits, List.flatMap_cons, List.cons_append, List.nil_append, List.map_cons,
      readPairs, high, low]
    rw [← digits, bind_eq_ok]
    exact ⟨b, ih _, by rw [whole, UInt8.ofNat_toNat]; rfl⟩

theorem decode_encode (b : Bytes) : decode (encode b) = .ok b := by
  have even : ((digits b).map fun c => UInt8.ofNat c.toNat).length % 2 ≠ 1 := by
    rw [List.length_map, length_digits]
    omega
  simp only [decode, ofText_encode, if_neg even, readPairs_digits]

theorem x_not_mem_digits (b : Bytes) : 'x' ∉ digits b := by
  intro x
  obtain ⟨n, hn, hx⟩ := mem_digits x
  exact (digit_value hn).2.1 hx.symm

theorem toList_mark (s : String) : ("0x" ++ s).toList = '0' :: 'x' :: s.toList := by
  rw [String.toList_append]
  rfl

/-- A mark in front of a text is taken off. -/
theorem withoutMark_mark (s : String) : withoutMark ("0x" ++ s) = s := by
  rw [withoutMark, toList_mark]
  exact String.ofList_toList

/-- What is written has no mark to be taken off. -/
theorem withoutMark_encode (b : Bytes) : withoutMark (encode b) = encode b := by
  unfold withoutMark
  split
  · rename_i rest marked
    rw [encode, String.toList_ofList] at marked
    exact absurd (by simp [marked]) (x_not_mem_digits b)
  · rfl

theorem strip_digits (b : Bytes) : withoutMarks.strip (digits b) = digits b := by
  unfold withoutMarks.strip
  split
  · rename_i rest marked
    exact absurd (by simp [marked]) (x_not_mem_digits b)
  · rfl

/-- One mark before what is written is all that is taken off. -/
theorem withoutMarks_mark_encode (b : Bytes) : withoutMarks ("0x" ++ encode b) = encode b := by
  rw [withoutMarks, toList_mark, withoutMarks.strip, encode, String.toList_ofList, strip_digits]

theorem encode_injective {a b : Bytes} (h : encode a = encode b) : a = b := by
  have same := decode_encode a
  rw [h, decode_encode] at same
  exact (Except.ok.inj same).symm

/-! ## The texts that are read -/

/-- The values of the two digits of each octet. -/
def nibbles (b : Bytes) : List Nat := b.flatMap fun d => [d.toNat / 16, d.toNat % 16]

theorem nibbles_cons (d : UInt8) (b : Bytes) :
    nibbles (d :: b) = d.toNat / 16 :: d.toNat % 16 :: nibbles b := rfl

theorem digits_eq (b : Bytes) : digits b = (nibbles b).map digit := by
  rw [digits, nibbles, List.map_flatMap]
  rfl

theorem nibbles_lt {b : Bytes} : ∀ n ∈ nibbles b, n < 16 := by
  intro n hn
  obtain ⟨d, -, hd⟩ := List.mem_flatMap.mp hn
  have small := d.toNat_lt
  simp only [List.mem_cons, List.not_mem_nil, or_false] at hd
  omega

theorem digitValue?_lt {octet : UInt8} {n : Nat} (h : digitValue? octet = some n) :
    octet.toNat < 128 ∧ n < 16 := by
  simp only [digitValue?] at h
  split at h
  · simp only [Option.some.injEq] at h
    omega
  · split at h
    · simp only [Option.some.injEq] at h
      omega
    · split at h
      · simp only [Option.some.injEq] at h
        omega
      · cases h

/-- An octet is known by the values of its digits. -/
theorem ofNat_nibbles {d : UInt8} {h l : Nat} (high : h < 16) (low : l < 16) :
    UInt8.ofNat (16 * h + l) = d ↔ h = d.toNat / 16 ∧ l = d.toNat % 16 := by
  have small := d.toNat_lt
  rw [← UInt8.toNat_inj, UInt8.toNat_ofNat', Nat.mod_eq_of_lt (by omega)]
  omega

/-- Octets are read from digits that have the values of their halves. -/
theorem readPairs_eq_ok {text b : Bytes} {position : Nat} (even : text.length % 2 ≠ 1) :
    readPairs position text = .ok b ↔ text.map digitValue? = (nibbles b).map some := by
  fun_induction readPairs position text generalizing b with
  | case1 position high low rest unread => cases b <;> simp [unread, nibbles]
  | case2 position high low rest h unread => cases b <;> simp [unread, nibbles]
  | case3 position high low rest h l knownLow knownHigh ih =>
    have highSmall := (digitValue?_lt knownHigh).2
    have lowSmall := (digitValue?_lt knownLow).2
    have even' : rest.length % 2 ≠ 1 := by
      simp only [List.length_cons] at even
      omega
    simp only [bind_eq_ok, pure_eq_ok, ih even']
    rw [List.map_cons, List.map_cons, knownHigh, knownLow]
    constructor
    · rintro ⟨more, same, rfl⟩
      obtain ⟨upper, lower⟩ := (ofNat_nibbles highSmall lowSmall).mp rfl
      rw [nibbles_cons, List.map_cons, List.map_cons, ← same, ← upper, ← lower]
    · intro same
      cases b with
      | nil => cases same
      | cons d b =>
        simp only [nibbles_cons, List.map_cons, List.cons.injEq, Option.some.injEq] at same
        obtain ⟨upper, lower, rest⟩ := same
        exact ⟨b, rest, congrArg (· :: b) ((ofNat_nibbles highSmall lowSmall).mpr ⟨upper, lower⟩)⟩
  | case4 text position short =>
    cases text with
    | nil => cases b <;> simp [nibbles]
    | cons d text =>
      cases text with
      | nil => exact absurd rfl even
      | cons d' text => exact (short d d' text rfl).elim

theorem toNat_digit {n : Nat} (small : n < 16) :
    (digit n).toNat = if n < 10 then 48 + n else 87 + n := by
  have all : ∀ n : Fin 16, (digit n).toNat = if n.val < 10 then 48 + n.val else 87 + n.val := by
    decide
  exact all ⟨n, small⟩

/-- A digit of either case has the value that its lower case is written for. -/
theorem digitValue?_eq_some {c : Char} (ascii : c.toNat < 128) {n : Nat} (small : n < 16) :
    digitValue? (UInt8.ofNat c.toNat) = some n ↔ c.toLower = digit n := by
  rw [← Char.toNat_inj, Text.toNat_toLower, toNat_digit small, digitValue?, UInt8.toNat_ofNat',
    Nat.mod_eq_of_lt (by omega)]
  grind

theorem map_eq_map_congr {α β γ δ : Type} {f : α → γ} {g : β → γ} {f' : α → δ} {g' : β → δ}
    {xs : List α} {ys : List β} (h : ∀ x ∈ xs, ∀ y ∈ ys, f x = g y ↔ f' x = g' y) :
    xs.map f = ys.map g ↔ xs.map f' = ys.map g' := by
  induction xs generalizing ys with
  | nil => cases ys <;> simp
  | cons x xs ih =>
    cases ys with
    | nil => simp
    | cons y ys =>
      have rest := ih fun x hx y hy => h x (List.mem_cons_of_mem _ hx) y (List.mem_cons_of_mem _ hy)
      simp only [List.map_cons, List.cons.injEq, h x List.mem_cons_self y List.mem_cons_self, rest]

theorem decode_eq_ok_iff_octets {s : String} {b : Bytes} :
    decode s = .ok b ↔ (Bytes.ofText s).map digitValue? = (nibbles b).map some := by
  by_cases odd : (Bytes.ofText s).length % 2 = 1
  · have length : (nibbles b).length = 2 * b.length := by
      simp [nibbles, List.length_flatMap, Nat.mul_comm]
    apply iff_of_false
    · simp only [decode, if_pos odd]
      intro h
      cases h
    · intro same
      have lengths := congrArg List.length same
      rw [List.length_map, List.length_map, length] at lengths
      omega
  · simp only [decode, if_neg odd]
    exact readPairs_eq_ok odd

/-- A text is read as octets exactly when its lower case is what is written for them. -/
theorem decode_eq_ok {s : String} {b : Bytes} :
    decode s = .ok b ↔ s.toList.map Char.toLower = digits b := by
  rw [decode_eq_ok_iff_octets, digits_eq]
  by_cases ascii : ∀ c ∈ s.toList, c.toNat < 128
  · have codes := Bytes.ofText_ofList ascii
    rw [String.ofList_toList] at codes
    rw [codes, List.map_map]
    exact map_eq_map_congr fun c hc n hn => digitValue?_eq_some (ascii c hc) (nibbles_lt n hn)
  · apply iff_of_false
    · intro same
      apply ascii
      apply Bytes.ascii_of_ofText
      intro d hd
      obtain ⟨n, -, known⟩ := List.mem_map.mp (same ▸ List.mem_map_of_mem hd)
      exact (digitValue?_lt known.symm).1
    · intro same
      apply ascii
      intro c hc
      obtain ⟨n, hn, lower⟩ := List.mem_map.mp (same ▸ List.mem_map_of_mem hc)
      have code := congrArg Char.toNat lower
      rw [Text.toNat_toLower, toNat_digit (nibbles_lt n hn)] at code
      have small := nibbles_lt n hn
      grind

theorem map_toLower_digits (b : Bytes) : (digits b).map Char.toLower = digits b := by
  have read := decode_eq_ok.mp (decode_encode b)
  rwa [encode, String.toList_ofList] at read

end Hex

end LedgerGateway
