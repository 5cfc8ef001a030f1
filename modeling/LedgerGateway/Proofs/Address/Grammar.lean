import LedgerGateway.Proofs.Address.Text
import LedgerGateway.Proofs.Text
import Mathlib.Data.List.TakeWhile

/-!
# The checksummed texts that are read

A text is split at its last `1`, and its head and its characters are read in either case. The
checksum of either variant is read, and no other six characters behind the data
(`Bech32.checked_iff`); bits behind the last whole octet are dropped. So a text is read as octets
under a head exactly when it is, in one case, what would be written for some data that begin with
these octets (`Bech32.decode_oneCase`).
-/

namespace LedgerGateway

namespace Bits

theorem octet_of_length {g : List Bool} (size : g.length = 8) :
    ofNat 8 (UInt8.ofNat (toNat g)).toNat = g := by
  have small := toNat_lt g
  have back := ofNat_toNat g
  rw [size] at small back
  rw [UInt8.toNat_ofNat', Nat.mod_eq_of_lt small, back]

/-- Bits are whole groups and fewer bits than one more group. -/
theorem wholeGroups_append (size : Nat) (bits : List Bool) :
    ∃ rest, bits = (wholeGroups size bits).flatten ++ rest ∧ rest.length ≤ size := by
  fun_induction wholeGroups with
  | case1 bits short => exact ⟨bits, rfl, short⟩
  | case2 bits long ih =>
    obtain ⟨rest, same, short⟩ := ih
    refine ⟨rest, ?_, short⟩
    rw [List.flatten_cons, List.append_assoc, ← same, List.take_append_drop]

/-- Octets are made of their bits with fewer than eight more behind them. -/
theorem toBytes_eq_iff {bits : List Bool} {b : Bytes} :
    toBytes bits = b ↔ ∃ rest, bits = ofBytes b ++ rest ∧ rest.length ≤ 7 := by
  constructor
  · rintro rfl
    obtain ⟨rest, same, short⟩ := wholeGroups_append 7 bits
    have octets : ∀ g ∈ wholeGroups 7 bits, ofNat 8 (UInt8.ofNat (toNat g)).toNat = g :=
      fun g hg => octet_of_length (length_of_mem_wholeGroups hg)
    refine ⟨rest, ?_, short⟩
    rw [ofBytes, toBytes, List.flatMap_map, List.flatMap_def,
      List.map_congr_left octets, List.map_id']
    exact same
  · rintro ⟨rest, rfl, short⟩
    exact toBytes_ofBytes b short

/-- Values of one width are a beginning of other values when their bits are. -/
theorem flatMap_prefix {α : Type} {width : Nat} {f : α → List Bool}
    (size : ∀ a, (f a).length = width) (inj : Function.Injective f) {xs ys : List α}
    {rest : List Bool} (same : xs.flatMap f = ys.flatMap f ++ rest) (positive : 0 < width) :
    ∃ zs, xs = ys ++ zs ∧ rest = zs.flatMap f := by
  induction ys generalizing xs with
  | nil => exact ⟨xs, rfl, same.symm⟩
  | cons y ys ih =>
    cases xs with
    | nil =>
      have none := congrArg List.length same
      rw [List.flatMap_cons, List.flatMap_nil, List.append_assoc, List.length_append, size,
        List.length_nil] at none
      omega
    | cons x xs =>
      rw [List.flatMap_cons, List.flatMap_cons, List.append_assoc] at same
      obtain ⟨first, others⟩ := List.append_inj same ((size x).trans (size y).symm)
      obtain ⟨zs, rfl, more⟩ := ih others
      exact ⟨zs, by rw [inj first]; rfl, more⟩

end Bits

namespace Bech32

variable {cs head h tail : List Char} {data payload : List (Fin 32)} {variant : Variant} {b : Bytes}

theorem length_bits (v : Fin 32) : (Bits.ofNat 5 v.val).length = 5 := Bits.length_ofNat 5 v.val

theorem bits_injective : Function.Injective fun v : Fin 32 => Bits.ofNat 5 v.val := by
  intro v w same
  have values := congrArg Bits.toNat same
  simp only [Bits.toNat_ofNat] at values
  exact Fin.ext (by omega)

/-- Octets that make whole groups are read from these groups with at most one more value behind
them. -/
theorem octets_eq_iff (whole : 5 ∣ b.length) :
    octets data = b ↔ ∃ surplus, data = groups b ++ surplus ∧ surplus.length ≤ 1 := by
  have bits : (groups b).flatMap (fun v => Bits.ofNat 5 v.val) = Bits.ofBytes b := by
    have none : (5 - 8 * b.length % 5) % 5 = 0 := by omega
    rw [flatMap_groups, filled, none, List.replicate_zero, List.append_nil]
  rw [octets, Bits.toBytes_eq_iff, ← bits]
  constructor
  · rintro ⟨rest, same, short⟩
    obtain ⟨surplus, rfl, rfl⟩ := Bits.flatMap_prefix length_bits bits_injective same (by decide)
    rw [Bits.length_flatMap_ofNat] at short
    exact ⟨surplus, rfl, by omega⟩
  · rintro ⟨surplus, rfl, short⟩
    refine ⟨_, List.flatMap_append, ?_⟩
    rw [Bits.length_flatMap_ofNat]
    omega

theorem toLower_character (v : Fin 32) : (character v).toLower = character v := by
  revert v
  decide

theorem value?_eq_some {c : Char} {v : Fin 32} : value? c = some v ↔ c.toLower = character v := by
  constructor
  · intro found
    have same : (character v == c.toLower) = true :=
      List.find?_some (p := fun v => character v == c.toLower) found
    exact (beq_iff_eq.mp same).symm
  · intro lower
    have found := value?_character v
    rw [value?, toLower_character, ← lower] at found
    exact found

theorem mapM_value?_eq_some :
    tail.mapM value? = some data ↔ tail.map Char.toLower = data.map character := by
  induction tail generalizing data with
  | nil => cases data <;> simp
  | cons c tail ih =>
    cases data with
    | nil => simp [Option.bind_eq_some_iff]
    | cons v data => simp [Option.bind_eq_some_iff, value?_eq_some, ih]

theorem isHead_map_toLower (head : List Char) : isHead (head.map Char.toLower) = isHead head := by
  have visible (c : Char) : (33 ≤ c.toLower.toNat && c.toLower.toNat ≤ 126) =
      (33 ≤ c.toNat && c.toNat ≤ 126) := by
    rw [Text.toNat_toLower, Bool.eq_iff_iff]
    simp only [Bool.and_eq_true, decide_eq_true_eq]
    split <;> omega
  simp only [isHead, List.isEmpty_map, List.length_map, List.all_map, Function.comp_def, visible]

theorem expandedHead_map_toLower (head : List Char) :
    expandedHead (head.map Char.toLower) = expandedHead head := by
  simp only [expandedHead, List.map_map, Function.comp_def, Text.toLower_toLower]

/-- A text with a `1` in it has a last one. -/
theorem exists_mark (mark : '1' ∈ cs) :
    ∃ head tail, cs = head ++ '1' :: tail ∧ ∀ c ∈ tail, c ≠ '1' := by
  obtain ⟨back, front, reversed, none⟩ := List.eq_append_cons_of_mem (List.mem_reverse.mpr mark)
  refine ⟨front.reverse, back.reverse, ?_, fun c hc => ?_⟩
  · simpa using congrArg List.reverse reversed
  · rintro rfl
    exact none (List.mem_reverse.mp hc)

theorem split?_eq_none (unmarked : '1' ∉ cs) : split? cs = none := by
  have all : cs.reverse.dropWhile (· != '1') = [] := by
    rw [List.dropWhile_eq_nil_iff]
    intro c hc
    exact bne_iff_ne.mpr fun same => unmarked (same ▸ List.mem_reverse.mp hc)
  simp only [split?, all]

/-- What is split is a good head, a `1` and characters of the alphabet, with letters in one case. -/
theorem split?_eq_some : split? cs = some (h, data) ↔
    ∃ tail, cs = h ++ '1' :: tail ∧ isHead h = true ∧ tail.map Char.toLower = data.map character ∧
      (cs.any Char.isLower && cs.any Char.isUpper) = false := by
  constructor
  · intro found
    by_cases mark : '1' ∈ cs
    · obtain ⟨head, tail, rfl, noMark⟩ := exists_mark mark
      rw [split?_mark noMark, Option.ite_none_right_eq_some] at found
      obtain ⟨good, values⟩ := found
      obtain ⟨hhead, unmixed⟩ := Bool.and_eq_true_iff.mp good
      obtain ⟨data, read, same⟩ := Option.map_eq_some_iff.mp values
      cases same
      exact ⟨tail, rfl, hhead, mapM_value?_eq_some.mp read,
        by simpa only [Bool.not_eq_true'] using unmixed⟩
    · rw [split?_eq_none mark] at found
      cases found
  · rintro ⟨tail, rfl, hhead, lower, unmixed⟩
    -- the alphabet has no `1`, so this one is the last
    have noMark : ∀ c ∈ tail, c ≠ '1' := by
      rintro c hc rfl
      obtain ⟨v, -, same⟩ := List.mem_map.mp (lower ▸ List.mem_map_of_mem hc)
      exact (character_plain v).1 same
    rw [split?_mark noMark, hhead, unmixed, mapM_value?_eq_some.mpr lower]
    rfl

theorem length_written :
    (written variant head payload).length = head.length + payload.length + 7 := by
  simp only [written, List.length_append, List.length_cons, List.length_map, length_checksum]
  omega

theorem character_injective : Function.Injective character := fun v w h =>
  Option.some.inj ((value?_character v).symm.trans (h ▸ value?_character w))

/-- A text shows the variant and the values that it was written for. -/
theorem written_inj {variant' : Variant} {payload' : List (Fin 32)}
    (same : written variant head payload = written variant' head payload') :
    variant = variant' ∧ payload = payload' := by
  have values := character_injective.list_map (List.cons.inj (List.append_cancel_left same)).2
  obtain ⟨rfl, checksums⟩ := List.append_inj' values rfl
  exact ⟨checksum_inj checksums, rfl⟩

theorem toLower_eq_mark {c : Char} (same : c.toLower = '1') : c = '1' := by
  have code := congrArg Char.toNat same
  rw [Text.toNat_toLower] at code
  change _ = 49 at code
  apply Char.toNat_inj.mp
  change c.toNat = 49
  split at code <;> omega

/-- A text whose head has the lower case `head` is split when it is that head with its
values, in one case. -/
theorem split?_oneCase (good : isHead head = true) (lower : head.any Char.isUpper = false) :
    (∃ h, split? cs = some (h, data) ∧ h.map Char.toLower = head) ↔
      Text.OneCase (head ++ '1' :: data.map character) cs := by
  rw [Text.oneCase_iff (any_isUpper_append lower data)]
  constructor
  · rintro ⟨h, found, rfl⟩
    obtain ⟨tail, rfl, -, values, unmixed⟩ := split?_eq_some.mp found
    refine ⟨?_, unmixed⟩
    rw [List.map_append, List.map_cons, values]
    rfl
  · rintro ⟨same, unmixed⟩
    obtain ⟨h, rest, rfl, hhead, more⟩ := List.map_eq_append_iff.mp same
    obtain ⟨mark, tail, rfl, hmark, values⟩ := List.map_eq_cons_iff.mp more
    rw [toLower_eq_mark hmark] at unmixed ⊢
    refine ⟨h, split?_eq_some.mpr ⟨tail, rfl, ?_, values, unmixed⟩, hhead⟩
    rw [← isHead_map_toLower, hhead, good]

theorem checksum_map_toLower (variant : Variant) (head : List Char) (data : List (Fin 32)) :
    checksum variant (head.map Char.toLower) data = checksum variant head data := by
  rw [checksum, expandedHead_map_toLower]
  rfl

/-- A text is read as octets under a head, of either case, when it is what is written for some
values that hold these octets, with the checksum of some variant, in one case. -/
theorem decode_oneCase (good : isHead head = true) (lower : head.any Char.isUpper = false) :
    (∃ h, decode cs = .ok (h, b) ∧ h.map Char.toLower = head) ↔
      cs.length ≤ 1023 ∧ ∃ variant payload, octets payload = b ∧
        Text.OneCase (written variant head payload) cs := by
  simp only [written, ← split?_oneCase good lower, decode_eq_ok]
  constructor
  · rintro ⟨h, ⟨short, variant, payload, held, parts⟩, rfl⟩
    exact ⟨short, variant, payload, held, h, by rw [checksum_map_toLower, parts], rfl⟩
  · rintro ⟨short, variant, payload, held, h, parts, rfl⟩
    rw [checksum_map_toLower] at parts
    exact ⟨h, ⟨short, variant, payload, held, parts⟩, rfl⟩

end Bech32

end LedgerGateway
