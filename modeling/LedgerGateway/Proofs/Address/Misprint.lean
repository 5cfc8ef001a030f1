import LedgerGateway.Proofs.Address.Reading

/-!
# A wrong character in an address

A checksum detects one wrong value. What the value is off by becomes a syndrome of the residue,
which depends on nothing else but how many values come after it (`Bech32.residue_change`). No
syndrome is zero, and none turns the constant of one variant of the checksum into that of the other,
so the values are read under neither (`Bech32.eq_of_checked`). A wrong character elsewhere, or one
that is no value, leaves no text that is read: the head, the mark and the length of a native text
are the same for all addresses. So no text with one wrong character is read
(`Address.misprint_refused`).
-/

namespace LedgerGateway

theorem Text.trimChars_infix (cs : List Char) : trimChars cs <:+: cs := by
  have front : trimStart cs <:+ cs := List.dropWhile_suffix _
  have back : trimChars cs <+: trimStart cs := by
    rw [← List.reverse_suffix, trimChars, List.reverse_reverse]
    exact List.dropWhile_suffix _
  exact back.isInfix.trans front.isInfix

namespace Bech32

/-- What a difference between two states has become when so many values were added to both. -/
def syndrome (difference : UInt32) (after : Nat) : UInt32 :=
  (List.replicate after 0).foldl step difference

theorem foldl_step_difference (s d : UInt32) (values : List UInt32) :
    values.foldl step (s ^^^ d) = values.foldl step s ^^^ syndrome d values.length := by
  induction values generalizing s d with
  | nil => rfl
  | cons v values ih =>
    have first : step (s ^^^ d) v = step s v ^^^ step d 0 := by rw [← step_xor, UInt32.xor_zero]
    rw [List.foldl_cons, first, ih]
    rfl

theorem step_zero (v : UInt32) : step 0 v = v := by
  rw [step_eq, UInt32.zero_shiftRight, UInt32.zero_and, UInt32.zero_shiftLeft,
    UInt32.zero_xor, reduce_zero]

/-- A changed value moves the residue by the syndrome of the change. -/
theorem residue_change (before after : List UInt32) (v w : UInt32) :
    residue (before ++ w :: after) =
      residue (before ++ v :: after) ^^^ syndrome (v ^^^ w) after.length := by
  have other : v ^^^ (v ^^^ w) = w := by rw [← UInt32.xor_assoc, UInt32.xor_self, UInt32.zero_xor]
  have changed := step_xor (residue before) 0 v (v ^^^ w)
  rw [UInt32.xor_zero, other, step_zero] at changed
  rw [residue_append, residue_append, List.foldl_cons, List.foldl_cons, changed,
    foldl_step_difference]

/-- What the constants of the two variants differ by. -/
def Variant.difference : UInt32 := Variant.plain.residue ^^^ Variant.modified.residue

/-- Whether a difference shows in the residue, under each variant, whenever fewer than so
many values come after it. The numeral is matched on so that it is worked out before the next
step is taken. -/
def showsFor : Nat → (difference : Nat) → Bool
  | 0, _ => true
  | _ + 1, 0 => false
  | more + 1, n + 1 =>
    UInt32.ofNat (n + 1) != Variant.difference &&
      showsFor more (step (UInt32.ofNat (n + 1)) 0).toNat

theorem showsFor_succ {more : Nat} {d : UInt32} (shows : showsFor (more + 1) d.toNat = true) :
    d ≠ 0 ∧ d ≠ Variant.difference ∧ showsFor more (step d 0).toNat = true := by
  cases number : d.toNat with
  | zero =>
    rw [number] at shows
    cases shows
  | succ n =>
    have same : UInt32.ofNat (n + 1) = d := number ▸ UInt32.ofNat_toNat
    rw [number, showsFor, same, Bool.and_eq_true, bne_iff_ne] at shows
    refine ⟨?_, shows⟩
    rintro rfl
    cases number

theorem syndrome_of_showsFor {more after : Nat} {d : UInt32} (shows : showsFor more d.toNat = true)
    (near : after < more) : syndrome d after ≠ 0 ∧ syndrome d after ≠ Variant.difference := by
  induction after generalizing more d with
  | zero =>
    obtain ⟨more, rfl⟩ := Nat.exists_eq_add_one_of_ne_zero (Nat.ne_zero_of_lt near)
    obtain ⟨some, apart, -⟩ := showsFor_succ shows
    exact ⟨some, apart⟩
  | succ after ih =>
    obtain ⟨more, rfl⟩ := Nat.exists_eq_add_one_of_ne_zero (Nat.ne_zero_of_lt near)
    obtain ⟨-, -, later⟩ := showsFor_succ shows
    exact ih later (Nat.lt_of_succ_lt_succ near)

/-- The table of syndromes: 31 differences, with up to 37 values after them. -/
theorem showsFor_value : ∀ n < 32, n ≠ 0 → showsFor 38 n = true := by decide +kernel

variable {head : List Char} {variant variant' : Variant} {before after : List (Fin 32)}
  {v w : Fin 32}

theorem syndrome_shows (other : v ≠ w) {k : Nat} (near : k < 38) :
    syndrome (word v ^^^ word w) k ≠ 0 ∧ syndrome (word v ^^^ word w) k ≠ Variant.difference := by
  have number (v : Fin 32) : (word v).toNat = v.val :=
    UInt32.toNat_ofNat_of_lt (Nat.lt_trans v.isLt (by decide))
  have small : (word v ^^^ word w).toNat < 32 := by
    rw [UInt32.toNat_xor, number, number]
    exact Nat.xor_lt_two_pow (n := 5) v.isLt w.isLt
  have some : (word v ^^^ word w).toNat ≠ 0 := by
    intro none
    have same := congrArg UInt32.toNat (UInt32.xor_eq_zero_iff.mp (UInt32.toNat_inj.mp none))
    rw [number, number] at same
    exact other (Fin.ext same)
  exact syndrome_of_showsFor (showsFor_value _ small some) near

/-- Values that differ in one place are not both followed by a checksum, of whatever variants. -/
theorem eq_of_checked (near : after.length < 38)
    (read : Checked variant head (before ++ v :: after))
    (read' : Checked variant' head (before ++ w :: after)) : v = w := by
  by_contra other
  obtain ⟨some, apart⟩ := syndrome_shows other near
  have change :=
    residue_change (expandedHead head ++ before.map word) (after.map word) (word v) (word w)
  have values (x : Fin 32) :
      residue (expandedHead head ++ before.map word ++ word x :: after.map word) =
      residue (expandedHead head ++ (before ++ x :: after).map word) := by
    rw [List.map_append, List.map_cons, List.append_assoc]
  rw [values, values, List.length_map] at change
  have constants : variant'.residue =
      variant.residue ^^^ syndrome (word v ^^^ word w) after.length :=
    read'.symm.trans (change.trans (congrArg (· ^^^ _) read))
  have between : syndrome (word v ^^^ word w) after.length =
      variant.residue ^^^ variant'.residue := by
    rw [constants, ← UInt32.xor_assoc, UInt32.xor_self, UInt32.zero_xor]
  cases variant <;> cases variant'
  · exact some (between.trans UInt32.xor_self)
  · exact apart between
  · exact apart (between.trans (UInt32.xor_comm _ _))
  · exact some (between.trans UInt32.xor_self)

end Bech32

namespace Address

variable {a b : Address} {cs before after : List Char} {variant : Bech32.Variant} {was c : Char}

theorem length_written (a : Address) (variant : Bech32.Variant) (surplus : List (Fin 32)) :
    (a.written variant surplus).length = 41 + surplus.length := by
  rw [written, Bech32.length_written, List.length_append, length_groups]
  simp only [head, List.length_cons, List.length_nil]
  omega

theorem IsHexText.length_eq (h : IsHexText a cs) : cs.length = 42 := by
  have digits := congrArg List.length h.map_toLower
  rw [List.length_map, toList_hexText, List.length_cons, List.length_cons, Hex.length_digits,
    a.length_eq] at digits
  exact digits

/-- A text as long as a native one is read only when it is one, under some variant, and stands
without blanks. -/
theorem native_of_length (length : cs.length = 41) (read : ofChars (Text.trimChars cs) = .ok b) :
    ∃ variant, Text.OneCase (b.written variant []) cs := by
  have part := Text.trimChars_infix cs
  have short := part.length_le
  obtain hex | ⟨variant, surplus, -, native⟩ := ofChars_eq_ok.mp read
  · have long := hex.length_eq
    omega
  · have long := native.length_eq
    rw [length_written] at long
    have none : surplus = [] := List.length_eq_zero_iff.mp (by omega)
    have whole : Text.trimChars cs = cs := part.eq_of_length_le (by omega)
    rw [none, whole] at native
    exact ⟨variant, native⟩

/-- The values of a native text under a variant. -/
def values (a : Address) (variant : Bech32.Variant) : List (Fin 32) :=
  Bech32.groups a.bytes ++ Bech32.checksum variant head (Bech32.groups a.bytes)

theorem length_values (a : Address) (variant : Bech32.Variant) :
    (a.values variant).length = 38 := by
  rw [values, List.length_append, length_groups, Bech32.length_checksum]

theorem checked_values (a : Address) (variant : Bech32.Variant) :
    Bech32.Checked variant head (a.values variant) :=
  Bech32.checked_checksum variant head _

theorem written_eq (a : Address) (variant : Bech32.Variant) :
    a.written variant [] = 'i' :: 'o' :: '1' :: (a.values variant).map Bech32.character := by
  rw [written, List.append_nil]
  rfl

/-- Two native texts, under whatever variants, do not differ in one character behind the mark
only. -/
theorem eq_of_characters {variant' : Bech32.Variant}
    (printed : before ++ was :: after = (a.values variant).map Bech32.character)
    (changed : before ++ c :: after = (b.values variant').map Bech32.character) : c = was := by
  obtain ⟨front, back, parts, hfront, hback⟩ := List.map_eq_append_iff.mp printed.symm
  obtain ⟨front', back', parts', hfront', hback'⟩ := List.map_eq_append_iff.mp changed.symm
  obtain ⟨v, rest, rfl, rfl, hrest⟩ := List.map_eq_cons_iff.mp hback
  obtain ⟨w, rest', rfl, rfl, hrest'⟩ := List.map_eq_cons_iff.mp hback'
  obtain rfl := Bech32.character_injective.list_map (hfront'.trans hfront.symm)
  obtain rfl := Bech32.character_injective.list_map (hrest'.trans hrest.symm)
  have length := a.length_values variant
  have near : rest'.length < 38 := by
    rw [parts, List.length_append, List.length_cons] at length
    omega
  have checked := a.checked_values variant
  have checked' := b.checked_values variant'
  rw [parts] at checked
  rw [parts'] at checked'
  rw [Bech32.eq_of_checked near checked checked']

/-- A native text of some address that is another one but for one character is that other one. -/
theorem eq_of_native (printed : a.text.toList = before ++ was :: after)
    (native : Text.OneCase (b.written variant []) (before ++ c :: after)) : c = was := by
  rw [toList_text, written_eq] at printed
  rw [Text.OneCase, written_eq] at native
  obtain lower | upper := native
  · -- the head and the mark are the same in all native texts
    rcases before with _ | ⟨i, _ | ⟨o, _ | ⟨mark, before⟩⟩⟩
    · exact (List.cons.inj lower).1.trans (List.cons.inj printed).1
    · simp only [List.cons_append, List.nil_append, List.cons.injEq] at printed lower
      exact lower.2.1.trans printed.2.1
    · simp only [List.cons_append, List.nil_append, List.cons.injEq] at printed lower
      exact lower.2.2.1.trans printed.2.2.1
    · simp only [List.cons_append, List.cons.injEq] at printed lower
      exact eq_of_characters printed.2.2.2.symm lower.2.2.2
  · -- the two letters of the head would both have changed
    rcases before with _ | ⟨i, before⟩
    · have second : after.head? = some 'o' := by rw [← (List.cons.inj printed).2]; rfl
      rw [(List.cons.inj upper).2] at second
      cases second
    · cases (List.cons.inj printed).1.trans (List.cons.inj upper).1

/-- A native text in which one character, of the head, the mark, the data or the checksum, is
replaced by any other one is not read, as whatever address. -/
theorem misprint_refused (a : Address) {i : Nat} {was c : Char}
    (here : a.text.toList[i]? = some was) (other : c ≠ was) :
    ∃ fault, ofText (String.ofList (a.text.toList.set i c)) = .error fault := by
  have length : (a.text.toList.set i c).length = 41 := by
    rw [List.length_set, toList_text, length_written]
    rfl
  obtain ⟨inside, rfl⟩ := List.getElem?_eq_some_iff.mp here
  have printed : a.text.toList =
      a.text.toList.take i ++ a.text.toList[i] :: a.text.toList.drop (i + 1) := by
    rw [← List.drop_eq_getElem_cons inside, List.take_append_drop]
  have changed : a.text.toList.set i c =
      a.text.toList.take i ++ c :: a.text.toList.drop (i + 1) := by
    rw [List.set_eq_take_append_cons_drop, if_pos inside]
  cases read : ofText (String.ofList (a.text.toList.set i c)) with
  | error fault => exact ⟨fault, rfl⟩
  | ok b =>
    rw [ofText, String.toList_ofList] at read
    obtain ⟨variant, native⟩ := native_of_length length read
    rw [changed] at native
    exact absurd (eq_of_native printed native) other

end Address

namespace Specimen

/-- The last character of a checksum, replaced by its neighbour in the alphabet. -/
theorem holder_misprint_refused : holder.text.toList[40]? = some 'l' ∧ 'm' ≠ 'l' ∧
    ∃ fault, Address.ofText "io1qyqszqgpqyqszqgpqyqszqgpqyqszqgpvpy93m" = .error fault := by
  have here : holder.text.toList[40]? = some 'l' := by rw [text_holder]; rfl
  have other : 'm' ≠ 'l' := by decide
  have refused := Address.misprint_refused holder here other
  rw [text_holder] at refused
  exact ⟨here, other, refused⟩

end Specimen

end LedgerGateway
