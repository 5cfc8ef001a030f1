import LedgerGateway.Proofs.Address.Grammar

/-!
# The texts of an address

An address has a native text, in lower case or in upper case, and base-16 texts, with the mark and
the digits in any case. All of them are read as the address, also between blanks, and what is read
is known by its native text (`Address.texts_read`). The reader takes more than these: it takes
either variant of the checksum, and it drops the bits of one more character before the checksum
(`Address.accepted_texts`).
-/

namespace LedgerGateway

namespace Text

theorem isBlank_toLower (c : Char) : isBlank c.toLower = isBlank c := by
  rw [isBlank, toNat_toLower, isBlank, Bool.eq_iff_iff]
  simp only [Bool.or_eq_true, Bool.and_eq_true, decide_eq_true_eq, beq_iff_eq]
  split <;> omega

theorem isBlank_of_map_toLower {cs lower : List Char} (same : cs.map Char.toLower = lower)
    (visible : ∀ c ∈ lower, isBlank c = false) : ∀ c ∈ cs, isBlank c = false := by
  intro c hc
  rw [← isBlank_toLower]
  exact visible _ (same ▸ List.mem_map_of_mem hc)

end Text

namespace Address

variable {a : Address} {b : Bytes} {cs before after : List Char} {mark : Char}

/-- The native text, in lower case or in upper case. -/
def IsNativeText (a : Address) (cs : List Char) : Prop := Text.OneCase a.text.toList cs

/-- The base-16 digits behind a mark, all of them in any case. -/
def IsHexText (a : Address) (cs : List Char) : Prop :=
  ∃ mark digits, (mark = 'x' ∨ mark = 'X') ∧
    cs = '0' :: mark :: digits ∧ digits.map Char.toLower = Hex.digits a.bytes

/-- The native text with the checksum of some variant, and with more values behind those of the
octets. -/
def written (a : Address) (variant : Bech32.Variant) (surplus : List (Fin 32)) : List Char :=
  Bech32.written variant head (Bech32.groups a.bytes ++ surplus)

theorem toList_text (a : Address) : a.text.toList = a.written .plain [] := by
  rw [text, String.toList_ofList, Bech32.encode_eq, written, List.append_nil]

theorem toList_hexText (a : Address) : a.hexText.toList = '0' :: 'x' :: Hex.digits a.bytes := by
  rw [hexText, Hex.toList_mark, Hex.encode, String.toList_ofList]

theorem ofBytes_eq_ok : ofBytes b = .ok a ↔ b = a.bytes := by
  constructor
  · intro read
    unfold ofBytes at read
    split at read
    · rename_i found
      cases read
      unfold Octets.ofBytes? at found
      split at found
      · cases found
        rfl
      · cases found
    · cases read
  · rintro rfl
    rw [ofBytes, Octets.ofBytes?_bytes]

/-- A mark selects base 16. -/
theorem ofChars_marked (hmark : mark = 'x' ∨ mark = 'X') : ofChars ('0' :: mark :: cs) = .ok a ↔
    cs.map Char.toLower = Hex.digits a.bytes := by
  have text : (String.ofList cs).toList.map Char.toLower = Hex.digits a.bytes ↔
      Hex.decode (String.ofList cs) = .ok a.bytes := Hex.decode_eq_ok.symm
  rw [String.toList_ofList] at text
  rw [text]
  cases read : Hex.decode (String.ofList cs) with
  | error fault =>
    have refused : ofChars ('0' :: mark :: cs) = .error (.hex fault) := by
      obtain rfl | rfl := hmark
      · simp only [ofChars, read]
      · simp only [ofChars, read]
    simp [refused]
  | ok b =>
    have selected : ofChars ('0' :: mark :: cs) = ofBytes b := by
      obtain rfl | rfl := hmark
      · simp only [ofChars, read]
      · simp only [ofChars, read]
    simp [selected, ofBytes_eq_ok]

/-- Without a mark a text is read under the native head. -/
theorem ofChars_unmarked
    (unmarked : ∀ mark digits, mark = 'x' ∨ mark = 'X' → cs ≠ '0' :: mark :: digits) :
    ofChars cs = .ok a ↔ ∃ h, Bech32.decode cs = .ok (h, a.bytes) ∧ h.map Char.toLower = head := by
  cases cs with
  | nil =>
    have unread : Bech32.decode [] = .error .form := rfl
    rw [unread]
    exact iff_of_false (by simp [ofChars]) (by simp)
  | cons c cs =>
    simp only [ofChars]
    split
    · exact absurd (by assumption) (unmarked 'x' _ (.inl rfl))
    · exact absurd (by assumption) (unmarked 'X' _ (.inr rfl))
    · cases Bech32.decode (c :: cs) with
      | error fault => simp
      | ok found =>
        obtain ⟨got, b⟩ := found
        by_cases native : got.map Char.toLower = head
        · simp [native, ofBytes_eq_ok]
        · simp [native]

theorem length_groups (a : Address) : (Bech32.groups a.bytes).length = 32 := by
  have groups := Bech32.length_groups a.bytes
  have octets := a.length_eq
  omega

/-- Every native text begins with the letter of the head, so it has no mark. -/
theorem unmarked_of_written {variant : Bech32.Variant} {surplus : List (Fin 32)}
    (native : Text.OneCase (a.written variant surplus) cs) (mark : Char) (digits : List Char) :
    cs ≠ '0' :: mark :: digits := by
  rintro rfl
  obtain same | same := native
  · cases same
  · exact absurd (List.cons.inj same).1 (by decide)

/-- What is read behind the native head are the texts written for the octets, with either checksum
and at most one more value. -/
theorem native_iff : (∃ h, Bech32.decode cs = .ok (h, a.bytes) ∧ h.map Char.toLower = head) ↔
    ∃ variant surplus, surplus.length ≤ 1 ∧ Text.OneCase (a.written variant surplus) cs := by
  have whole : 5 ∣ a.bytes.length := by
    rw [a.length_eq]
    decide
  rw [Bech32.decode_oneCase (by decide) lower_head]
  constructor
  · rintro ⟨-, variant, payload, held, native⟩
    obtain ⟨surplus, rfl, one⟩ := (Bech32.octets_eq_iff whole).mp held
    exact ⟨variant, surplus, one, native⟩
  · rintro ⟨variant, surplus, one, native⟩
    refine ⟨?_, variant, _, (Bech32.octets_eq_iff whole).mpr ⟨surplus, rfl, one⟩, native⟩
    have groups := a.length_groups
    rw [native.length_eq, written, Bech32.length_written, List.length_append]
    simp only [head, List.length_cons, List.length_nil]
    omega

theorem ofChars_eq_ok : ofChars cs = .ok a ↔ IsHexText a cs ∨
    ∃ variant surplus, surplus.length ≤ 1 ∧ Text.OneCase (a.written variant surplus) cs := by
  -- the mark decides which reader is asked, and neither form can be taken for the other
  by_cases marked : ∃ mark digits, (mark = 'x' ∨ mark = 'X') ∧ cs = '0' :: mark :: digits
  · obtain ⟨mark, digits, hmark, rfl⟩ := marked
    rw [ofChars_marked hmark]
    constructor
    · intro lower
      exact .inl ⟨mark, digits, hmark, rfl, lower⟩
    · rintro (⟨_, _, -, same, lower⟩ | ⟨variant, surplus, -, native⟩)
      · cases same
        exact lower
      · exact absurd rfl (unmarked_of_written native mark digits)
  · have none : ¬ IsHexText a cs :=
      fun ⟨mark, digits, hmark, same, _⟩ => marked ⟨mark, digits, hmark, same⟩
    rw [ofChars_unmarked fun mark digits hmark same => marked ⟨mark, digits, hmark, same⟩,
      native_iff]
    simp only [none, false_or]

theorem plain_written (a : Address) (variant : Bech32.Variant) (surplus : List (Fin 32)) :
    (a.written variant surplus).any Char.isUpper = false := Bech32.any_isUpper_append lower_head _

/-- A text shows the variant and the values behind the octets. -/
theorem written_inj {variant variant' : Bech32.Variant} {surplus surplus' : List (Fin 32)}
    (same : a.written variant surplus = a.written variant' surplus') :
    variant = variant' ∧ surplus = surplus' := by
  obtain ⟨variants, values⟩ := Bech32.written_inj same
  exact ⟨variants, List.append_cancel_left values⟩

/-! ## Blanks around a text -/

theorem isBlank_written {variant : Bech32.Variant} {surplus : List (Fin 32)} :
    ∀ c ∈ a.written variant surplus, Text.isBlank c = false :=
  fun c hc => (Bech32.visible_written visible_head variant _ c hc).2

theorem isBlank_hexText : ∀ c ∈ a.hexText.toList, Text.isBlank c = false := by
  have digit : ∀ n : Fin 16, Text.isBlank (Hex.digit n) = false := by decide
  rw [toList_hexText]
  intro c hc
  rcases List.mem_cons.mp hc with rfl | hc
  · decide
  · rcases List.mem_cons.mp hc with rfl | hc
    · decide
    · obtain ⟨n, hn, rfl⟩ := Hex.mem_digits hc
      exact digit ⟨n, hn⟩

theorem IsHexText.map_toLower (h : IsHexText a cs) : cs.map Char.toLower = a.hexText.toList := by
  obtain ⟨mark, digits, hmark, rfl, lower⟩ := h
  rw [toList_hexText, List.map_cons, List.map_cons, lower]
  obtain rfl | rfl := hmark
  · rfl
  · rfl

theorem IsNativeText.map_toLower (h : IsNativeText a cs) : cs.map Char.toLower = a.text.toList := by
  rw [IsNativeText, toList_text] at h
  rw [toList_text]
  exact ((Text.oneCase_iff (a.plain_written .plain [])).mp h).1

theorem ofChars_of_form (form : IsNativeText a cs ∨ IsHexText a cs) : ofChars cs = .ok a := by
  rw [ofChars_eq_ok]
  obtain native | hex := form
  · rw [IsNativeText, toList_text] at native
    exact .inr ⟨.plain, [], by decide, native⟩
  · exact .inl hex

theorem isBlank_of_form (form : IsNativeText a cs ∨ IsHexText a cs) :
    ∀ c ∈ cs, Text.isBlank c = false := by
  obtain native | hex := form
  · exact Text.isBlank_of_map_toLower (native.map_toLower.trans a.toList_text) isBlank_written
  · exact Text.isBlank_of_map_toLower hex.map_toLower isBlank_hexText

/-- A text of an address is read between blanks. -/
theorem ofText_of_form (blank : ∀ c ∈ before, Text.isBlank c = true)
    (form : IsNativeText a cs ∨ IsHexText a cs) (blank' : ∀ c ∈ after, Text.isBlank c = true) :
    ofText (String.ofList (before ++ cs ++ after)) = .ok a := by
  rw [ofText, String.toList_ofList, Text.trimChars_between blank (isBlank_of_form form) blank',
    ofChars_of_form form]

/-- The texts of an address are its native text in lower case and in upper case, and its base-16
texts under either mark with each digit in either case. All of them are read as the address, with
any blanks around them, the two that are written among them. So different addresses have different
native texts, and what is read is read again from its native text. -/
theorem texts_read :
    (∀ (a : Address) (before cs after : List Char), (∀ c ∈ before, Text.isBlank c = true) →
      IsNativeText a cs ∨ IsHexText a cs → (∀ c ∈ after, Text.isBlank c = true) →
        ofText (String.ofList (before ++ cs ++ after)) = .ok a) ∧
      (∀ a : Address, ofText a.text = .ok a ∧ ofText a.hexText = .ok a) ∧
      (∀ a b : Address, a.text = b.text → a = b) ∧
      ∀ s a, ofText s = .ok a → ofText a.text = ofText s := by
  have hexText (a : Address) : ofText a.hexText = .ok a := by
    have form : IsHexText a a.hexText.toList :=
      ⟨'x', Hex.digits a.bytes, .inl rfl, a.toList_hexText, Hex.map_toLower_digits _⟩
    have read := ofText_of_form (List.forall_mem_nil _) (.inr form) (List.forall_mem_nil _)
    rwa [List.nil_append, List.append_nil, String.ofList_toList] at read
  refine ⟨fun a before cs after blank form blank' => ofText_of_form blank form blank',
    fun a => ⟨a.ofText_text, hexText a⟩, fun a b => text_inj.mp, fun s a read => ?_⟩
  rw [read, ofText_text]

/-! ## More than the texts that are written -/

/-- A text of the other variant, or with a value behind the octets, is not a text of the address. -/
theorem not_form_of_written {variant : Bech32.Variant} {surplus : List (Fin 32)}
    (other : variant = .modified ∨ surplus ≠ []) :
    ¬ (IsHexText a (a.written variant surplus) ∨ IsNativeText a (a.written variant surplus)) := by
  rintro (⟨mark, digits, -, same, -⟩ | native)
  · exact unmarked_of_written (.inl rfl) mark digits same
  · rw [IsNativeText, toList_text] at native
    have same := native.unique (a.plain_written _ _) (a.plain_written _ _) (.inl rfl)
    obtain ⟨variants, values⟩ := written_inj same
    obtain modified | more := other
    · cases variants.trans modified
    · exact more values.symm

/-- What is read as an address, with the blanks around it taken off, is a text of it or its native
text with the other checksum or with one more value behind the octets. None of the latter is a text
of the address, and all of them are read. -/
theorem accepted_texts (s : String) (a : Address) :
    (ofText s = .ok a ↔
      IsHexText a (Text.trimChars s.toList) ∨ IsNativeText a (Text.trimChars s.toList) ∨
        ∃ variant surplus, (variant = .modified ∨ surplus ≠ []) ∧ surplus.length ≤ 1 ∧
          Text.OneCase (a.written variant surplus) (Text.trimChars s.toList)) ∧
      ∀ (variant : Bech32.Variant) (surplus : List (Fin 32)), variant = .modified ∨ surplus ≠ [] →
        surplus.length ≤ 1 → ofText (String.ofList (a.written variant surplus)) = .ok a ∧
          ¬ (IsHexText a (a.written variant surplus) ∨
            IsNativeText a (a.written variant surplus)) := by
  refine ⟨?_, fun variant surplus other one => ⟨?_, not_form_of_written other⟩⟩
  · rw [ofText, ofChars_eq_ok, IsNativeText, toList_text]
    refine or_congr_right ⟨?_, ?_⟩
    · rintro ⟨variant, surplus, one, native⟩
      by_cases documented : variant = .plain ∧ surplus = []
      · obtain ⟨rfl, rfl⟩ := documented
        exact .inl native
      · refine .inr ⟨variant, surplus, ?_, one, native⟩
        cases variant with
        | plain => exact .inr fun none => documented ⟨rfl, none⟩
        | modified => exact .inl rfl
    · rintro (native | ⟨variant, surplus, -, one, native⟩)
      · exact ⟨.plain, [], Nat.zero_le 1, native⟩
      · exact ⟨variant, surplus, one, native⟩
  · rw [ofText, String.toList_ofList, Text.trimChars_of_visible isBlank_written, ofChars_eq_ok]
    exact .inr ⟨variant, surplus, one, .inl rfl⟩

end Address

namespace Specimen

def holder : Address := Octets.ofNat 20 0x0101010101010101010101010101010101010101

theorem text_holder : holder.text = "io1qyqszqgpqyqszqgpqyqszqgpqyqszqgpvpy93l" := by decide +kernel

/-- The upper case of a native text is read between an ideographic space and the end of a line. -/
theorem holder_texts_read :
    Address.ofText "\u3000IO1QYQSZQGPQYQSZQGPQYQSZQGPQYQSZQGPVPY93L\n" = .ok holder ∧
      Address.ofText holder.text = .ok holder ∧
      (⟨List.replicate 20 1, rfl⟩ : Address) = holder := by
  obtain ⟨form, -, one, again⟩ := Address.texts_read
  have native : Address.IsNativeText holder "IO1QYQSZQGPQYQSZQGPQYQSZQGPQYQSZQGPVPY93L".toList := by
    right
    rw [text_holder]
    rfl
  have read := form holder ['\u3000'] _ ['\n'] (List.forall_mem_singleton.mpr (by decide))
    (.inl native) (List.forall_mem_singleton.mpr (by decide))
  exact ⟨read, (again _ _ read).trans read, one _ _ (by decide +kernel)⟩

/-- A base-16 text after a blank is read, and so is a native text with one more character. -/
theorem holder_accepted_texts :
    Address.ofText " 0X0101010101010101010101010101010101010101" = .ok holder ∧
      Address.ofText "io1qyqszqgpqyqszqgpqyqszqgpqyqszqgpqs6rm0x" = .ok holder := by
  obtain ⟨accepted, others⟩ :=
    Address.accepted_texts " 0X0101010101010101010101010101010101010101" holder
  have hex : Address.IsHexText holder "0X0101010101010101010101010101010101010101".toList :=
    ⟨'X', _, .inr rfl, rfl, rfl⟩
  have longer :
      holder.written .plain [0] = "io1qyqszqgpqyqszqgpqyqszqgpqyqszqgpqs6rm0x".toList := by
    decide +kernel
  have read := (others .plain [0] (.inr (by decide)) (by decide)).1
  rw [longer, String.ofList_toList] at read
  exact ⟨accepted.mpr (.inl hex), read⟩

/-- A text with the other checksum and a text with one more character are read as an address,
and they are neither the native text of it, in lower case or in upper case, nor a mark with
base-16 digits. -/
theorem other_texts_read :
    Address.ofText "io1qyqszqgpqyqszqgpqyqszqgpqyqszqgpea5f5a" = .ok holder ∧
      ¬ (Address.IsHexText holder
          (Text.trimChars "io1qyqszqgpqyqszqgpqyqszqgpqyqszqgpea5f5a".toList) ∨
        Address.IsNativeText holder
          (Text.trimChars "io1qyqszqgpqyqszqgpqyqszqgpqyqszqgpea5f5a".toList)) ∧
      Address.ofText "io1qyqszqgpqyqszqgpqyqszqgpqyqszqgpqs6rm0x" = .ok holder ∧
      ¬ (Address.IsHexText holder
          (Text.trimChars "io1qyqszqgpqyqszqgpqyqszqgpqyqszqgpqs6rm0x".toList) ∨
        Address.IsNativeText holder
          (Text.trimChars "io1qyqszqgpqyqszqgpqyqszqgpqyqszqgpqs6rm0x".toList)) := by
  have other {cs : List Char} (facts : cs.head? = some 'i' ∧ cs ≠ holder.text.toList ∧
      cs ≠ holder.text.toList.map Char.toUpper) :
      ¬ (Address.IsHexText holder cs ∨ Address.IsNativeText holder cs) := by
    obtain ⟨first, lower, upper⟩ := facts
    rintro (⟨mark, digits, -, rfl, -⟩ | same | same)
    · cases first
    · exact lower same
    · exact upper same
  rw [text_holder] at other
  exact ⟨by decide +kernel, other (by decide), by decide +kernel, other (by decide)⟩

end Specimen

end LedgerGateway
