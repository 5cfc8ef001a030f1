import Mathlib.Data.List.Induction
import LedgerGateway.Address
import LedgerGateway.Bytes.Lemmas
import LedgerGateway.Proofs.Address.Checksum
import LedgerGateway.Proofs.Bytes.Hex

/-!
# Addresses are read back from their text

Octets are written in groups of five bits, with zeros behind the last one, and the reader cuts them
into octets again and drops what is left over. The text of an address has no blank around it and no
letter in upper case, so every reader of addresses finds it as it was written
(`Address.ofText_text`).
-/

namespace LedgerGateway

namespace Bits

theorem toNat_lt (bits : List Bool) : toNat bits < 2 ^ bits.length := by
  induction bits using List.reverseRecOn with
  | nil => decide
  | append_singleton bits b ih =>
    have bit : b.toNat ≤ 1 := b.toNat_le
    rw [toNat_append_singleton, List.length_append, List.length_singleton, Nat.pow_succ]
    omega

theorem ofNat_toNat (bits : List Bool) : ofNat bits.length (toNat bits) = bits := by
  induction bits using List.reverseRecOn with
  | nil => rfl
  | append_singleton bits b ih =>
    have bit : b.toNat ≤ 1 := b.toNat_le
    have high : (2 * toNat bits + b.toNat) / 2 = toNat bits := by omega
    have low : ((2 * toNat bits + b.toNat) % 2 == 1) = b := by
      rw [Nat.mul_add_mod]
      cases b <;> rfl
    rw [toNat_append_singleton, List.length_append, List.length_singleton, ofNat, high, low, ih]

/-- Groups of the right size are found again, and what is left over behind them is dropped. -/
theorem wholeGroups_flatten {size : Nat} {gs : List (List Bool)} {rest : List Bool}
    (whole : ∀ g ∈ gs, g.length = size + 1) (short : rest.length ≤ size) :
    wholeGroups size (gs.flatten ++ rest) = gs := by
  induction gs with
  | nil => rw [wholeGroups, List.flatten_nil, List.nil_append, if_pos short]
  | cons g gs ih =>
    obtain ⟨hg, hgs⟩ := List.forall_mem_cons.mp whole
    rw [wholeGroups, List.flatten_cons, List.append_assoc,
      if_neg (by rw [List.length_append]; omega), List.take_left' hg, List.drop_left' hg, ih hgs]

theorem length_of_mem_wholeGroups {size : Nat} {bits g : List Bool}
    (h : g ∈ wholeGroups size bits) : g.length = size + 1 := by
  fun_induction wholeGroups with
  | case1 => cases h
  | case2 bits long ih =>
    rcases List.mem_cons.mp h with rfl | h
    · rw [List.length_take]
      omega
    · exact ih h

/-- Bits that make whole groups are these groups one after the other. -/
theorem flatten_wholeGroups {size : Nat} {bits : List Bool} (whole : size + 1 ∣ bits.length) :
    (wholeGroups size bits).flatten = bits := by
  fun_induction wholeGroups with
  | case1 bits short =>
    have none := Nat.eq_zero_of_dvd_of_lt whole (Nat.lt_succ_of_le short)
    rw [List.length_eq_zero_iff.mp none]
    rfl
  | case2 bits long ih =>
    rw [List.flatten_cons, ih, List.take_append_drop]
    rw [List.length_drop]
    exact Nat.dvd_sub whole (Nat.dvd_refl _)

theorem toBytes_ofBytes (b : Bytes) {rest : List Bool} (short : rest.length ≤ 7) :
    toBytes (ofBytes b ++ rest) = b := by
  have octet (d : UInt8) : UInt8.ofNat (toNat (ofNat 8 d.toNat)) = d := by
    rw [toNat_ofNat, Nat.mod_eq_of_lt d.toNat_lt, UInt8.ofNat_toNat]
  have groups : wholeGroups 7 ((b.map fun d => ofNat 8 d.toNat).flatten ++ rest) =
      b.map fun d => ofNat 8 d.toNat :=
    wholeGroups_flatten (by simp) short
  rw [toBytes, ofBytes, List.flatMap_def, groups, List.map_map]
  exact (List.map_congr_left fun d _ => octet d).trans (List.map_id b)

theorem length_flatMap_ofNat {α : Type} (width : Nat) (f : α → Nat) (xs : List α) :
    (xs.flatMap fun x => ofNat width (f x)).length = width * xs.length := by
  induction xs with
  | nil => rfl
  | cons x xs ih =>
    rw [List.flatMap_cons, List.length_append, length_ofNat, ih, List.length_cons,
      Nat.mul_succ, Nat.add_comm]

theorem length_ofBytes (b : Bytes) : (ofBytes b).length = 8 * b.length :=
  length_flatMap_ofNat 8 UInt8.toNat b

end Bits

namespace Bech32

/-- The octets with zeros behind them, so that they make whole groups of five bits. -/
def filled (b : Bytes) : List Bool :=
  Bits.ofBytes b ++ List.replicate ((5 - 8 * b.length % 5) % 5) false

theorem dvd_length_filled (b : Bytes) : 4 + 1 ∣ (filled b).length := by
  rw [filled, List.length_append, Bits.length_ofBytes, List.length_replicate]
  omega

theorem groups_eq (b : Bytes) :
    groups b = (Bits.wholeGroups 4 (filled b)).map fun g => Fin.ofNat 32 (Bits.toNat g) :=
  rfl

/-- The groups of five bits, one after the other, are the bits that they were made of. -/
theorem flatMap_groups (b : Bytes) :
    ((groups b).flatMap fun v => Bits.ofNat 5 v.val) = filled b := by
  have same : ∀ g ∈ Bits.wholeGroups 4 (filled b),
      Bits.ofNat 5 (Fin.ofNat 32 (Bits.toNat g)).val = g := by
    intro g hg
    have size := Bits.length_of_mem_wholeGroups hg
    have small := Bits.toNat_lt g
    rw [size] at small
    have value : (Fin.ofNat 32 (Bits.toNat g)).val = Bits.toNat g := Nat.mod_eq_of_lt small
    have back := Bits.ofNat_toNat g
    rw [size] at back
    rw [value, back]
  rw [groups_eq, List.flatMap_map, List.flatMap_def, List.map_congr_left same, List.map_id',
    Bits.flatten_wholeGroups (dvd_length_filled b)]

theorem octets_groups (b : Bytes) : octets (groups b) = b := by
  rw [octets, flatMap_groups]
  exact Bits.toBytes_ofBytes b (by rw [List.length_replicate]; omega)

theorem length_groups (b : Bytes) :
    5 * (groups b).length = 8 * b.length + (5 - 8 * b.length % 5) % 5 := by
  have bits := congrArg List.length (flatMap_groups b)
  rwa [Bits.length_flatMap_ofNat, filled, List.length_append, Bits.length_ofBytes,
    List.length_replicate] at bits

/-- A character that every text keeps as it is: one octet, and not blank. -/
def Visible (c : Char) : Prop := c.toNat < 128 ∧ Text.isBlank c = false

instance (c : Char) : Decidable (Visible c) := by unfold Visible; infer_instance

theorem value?_character (v : Fin 32) : value? (character v) = some v := by
  revert v
  decide

/-- The characters of the alphabet are lower-case letters and digits, none of which is the digit
`1`. -/
theorem character_plain (v : Fin 32) :
    character v ≠ '1' ∧ (character v).isUpper = false ∧ Visible (character v) := by
  revert v
  decide

theorem mapM_value? (data : List (Fin 32)) : (data.map character).mapM value? = some data := by
  induction data with
  | nil => rfl
  | cons v data ih =>
    rw [List.map_cons, List.mapM_cons, value?_character, ih]
    rfl

/-- The last `1` of a text stands before its data. -/
theorem split?_mark {head tail : List Char} (data : ∀ c ∈ tail, c ≠ '1') :
    split? (head ++ '1' :: tail) =
      if isHead head &&
          !((head ++ '1' :: tail).any Char.isLower && (head ++ '1' :: tail).any Char.isUpper) then
        (tail.mapM value?).map fun data => (head, data)
      else none := by
  have noMark : ∀ c ∈ tail.reverse, (c != '1') = true :=
    fun c hc => bne_iff_ne.mpr (data c (List.mem_reverse.mp hc))
  have backwards : (head ++ '1' :: tail).reverse = tail.reverse ++ '1' :: head.reverse := by simp
  have back : (head ++ '1' :: tail).reverse.takeWhile (· != '1') = tail.reverse := by
    rw [backwards, List.takeWhile_append_of_pos noMark]
    simp
  have front : (head ++ '1' :: tail).reverse.dropWhile (· != '1') = '1' :: head.reverse := by
    rw [backwards, List.dropWhile_append_of_pos noMark]
    simp
  simp only [split?, back, front, List.reverse_reverse]

/-- The characters written for values under a head, with the checksum of a variant behind them. -/
def written (variant : Variant) (head : List Char) (payload : List (Fin 32)) : List Char :=
  head ++ '1' :: (payload ++ checksum variant head payload).map character

theorem encode_eq (head : List Char) (b : Bytes) : encode head b = written .plain head (groups b) :=
  rfl

theorem visible_written {head : List Char} (visible : ∀ c ∈ head, Visible c) (variant : Variant)
    (payload : List (Fin 32)) : ∀ c ∈ written variant head payload, Visible c := by
  intro c hc
  rcases List.mem_append.mp hc with hc | hc
  · exact visible c hc
  · rcases List.mem_cons.mp hc with rfl | hc
    · decide
    · obtain ⟨v, -, rfl⟩ := List.mem_map.mp hc
      exact (character_plain v).2.2

theorem any_isUpper_append {head : List Char} (lower : head.any Char.isUpper = false)
    (data : List (Fin 32)) : (head ++ '1' :: data.map character).any Char.isUpper = false := by
  have none : (data.map character).any Char.isUpper = false := by
    simp only [List.any_map, List.any_eq_false, Function.comp_apply]
    exact fun v _ => by simp [(character_plain v).2.1]
  rw [List.any_append, List.any_cons, lower, none]
  decide

theorem split?_append {head : List Char} (hhead : isHead head = true)
    (lower : head.any Char.isUpper = false) (data : List (Fin 32)) :
    split? (head ++ '1' :: data.map character) = some (head, data) := by
  have noMark : ∀ c ∈ data.map character, c ≠ '1' := by
    intro c hc
    obtain ⟨v, -, rfl⟩ := List.mem_map.mp hc
    exact (character_plain v).1
  simp only [split?_mark noMark, hhead, any_isUpper_append lower data, Bool.and_false,
    Bool.not_false, Bool.and_true, if_true, mapM_value?, Option.map_some]

/-- The values before a checksum. -/
theorem take_payload (variant : Variant) (head : List Char) (payload : List (Fin 32)) :
    (payload ++ checksum variant head payload).take
      ((payload ++ checksum variant head payload).length - 6) = payload := by
  apply List.take_left'
  rw [List.length_append, length_checksum]
  omega

/-- Values leave the constant of some variant when they end in the checksum of some variant. -/
theorem checked_or_iff {head : List Char} {data : List (Fin 32)} :
    6 ≤ data.length ∧ (Checked .plain head data ∨ Checked .modified head data) ↔
      ∃ variant payload, data = payload ++ checksum variant head payload := by
  constructor
  · rintro ⟨six, checked⟩
    have last : (data.drop (data.length - 6)).length = 6 := by
      rw [List.length_drop]
      omega
    have whole : data.take (data.length - 6) ++ data.drop (data.length - 6) = data :=
      List.take_append_drop _ _
    rw [← whole, checked_iff last, checked_iff last] at checked
    obtain plain | modified := checked
    · exact ⟨.plain, data.take (data.length - 6), by rw [← plain, whole]⟩
    · exact ⟨.modified, data.take (data.length - 6), by rw [← modified, whole]⟩
  · rintro ⟨variant, payload, rfl⟩
    have checked := checked_checksum variant head payload
    refine ⟨by rw [List.length_append, length_checksum]; omega, ?_⟩
    cases variant with
    | plain => exact .inl checked
    | modified => exact .inr checked

/-- The values that are read hold the octets, and the checksum of some variant stands behind
them. -/
theorem decode_eq_ok {cs head : List Char} {b : Bytes} :
    decode cs = .ok (head, b) ↔ cs.length ≤ 1023 ∧ ∃ variant payload, octets payload = b ∧
      split? cs = some (head, payload ++ checksum variant head payload) := by
  constructor
  · intro read
    unfold decode at read
    split at read
    · cases read
    · rename_i parts
      split at read
      · rename_i good
        obtain ⟨variant, payload, rfl⟩ := checked_or_iff.mp good.2
        rw [take_payload] at read
        cases read
        exact ⟨good.1, variant, payload, rfl, parts⟩
      · cases read
  · rintro ⟨short, variant, payload, rfl, parts⟩
    have checked : 6 ≤ (payload ++ checksum variant head payload).length ∧
        (Checked .plain head (payload ++ checksum variant head payload) ∨
          Checked .modified head (payload ++ checksum variant head payload)) :=
      checked_or_iff.mpr ⟨variant, payload, rfl⟩
    simp only [decode, parts, take_payload]
    exact if_pos ⟨short, checked⟩

/-- Octets under a lower-case head are read back from their text. -/
theorem decode_encode {head : List Char} (hhead : isHead head = true)
    (lower : head.any Char.isUpper = false) {b : Bytes} (short : (encode head b).length ≤ 1023) :
    decode (encode head b) = .ok (head, b) :=
  decode_eq_ok.mpr ⟨short, .plain, groups b, octets_groups b, split?_append hhead lower _⟩

end Bech32

namespace Address

theorem length_chars (a : Address) : (Bech32.encode head a.bytes).length ≤ 1023 := by
  have groups := Bech32.length_groups a.bytes
  have octets := a.length_eq
  simp only [Bech32.encode, head, List.length_append, List.length_cons, List.length_nil,
    List.length_map, Bech32.length_checksum]
  omega

theorem lower_head : head.any Char.isUpper = false := by decide

theorem visible_head : ∀ c ∈ head, Bech32.Visible c :=
  List.forall_mem_cons.mpr ⟨by decide, List.forall_mem_singleton.mpr (by decide)⟩

theorem ofChars_encode (a : Address) : ofChars (Bech32.encode head a.bytes) = .ok a := by
  have read := Bech32.decode_encode (by decide) lower_head a.length_chars
  have native : Bech32.encode head a.bytes = 'i' :: 'o' :: (Bech32.encode head a.bytes).drop 2 :=
    rfl
  have same : head.map Char.toLower = head := by decide
  rw [native] at read ⊢
  simp only [ofChars, read, same, if_true, ofBytes, Octets.ofBytes?_bytes]
  rfl

theorem visible_encode (a : Address) : ∀ c ∈ Bech32.encode head a.bytes, Bech32.Visible c := by
  rw [Bech32.encode_eq]
  exact Bech32.visible_written visible_head .plain _

/-- An address is read back from its native text. -/
theorem ofText_text (a : Address) : ofText a.text = .ok a := by
  rw [ofText, text, String.toList_ofList,
    Text.trimChars_of_visible fun c hc => (visible_encode a c hc).2, ofChars_encode]

/-- Different addresses have different texts. -/
theorem text_inj {a b : Address} : a.text = b.text ↔ a = b := by
  constructor
  · intro same
    exact Except.ok.inj ((ofText_text a).symm.trans (same ▸ ofText_text b))
  · exact congrArg text

theorem length_text (a : Address) : (Bytes.ofText a.text).length < UInt64.size := by
  rw [text, Bytes.ofText_ofList fun c hc => (visible_encode a c hc).1, List.length_map]
  exact Nat.lt_of_le_of_lt a.length_chars (by decide)

end Address

end LedgerGateway
