import LedgerGateway.Wire.Message
import LedgerGateway.Proofs.Outcome

/-!
# What readers leave

Every reader takes a part off the front of the octets, so that what it leaves is an end of them
(`rest <:+ b`). An end is known by its length: a nested message and a string of octets under the
same length leave the same.
-/

namespace LedgerGateway.Wire

open Outcome

variable {α β γ : Type}

theorem varintWithin_leaves {left n : Nat} {b rest : Bytes}
    (h : varintWithin left b = .ok (n, rest)) : rest <:+ b := by
  induction left generalizing b n with
  | zero => cases h
  | succ left ih =>
    cases b with
    | nil => cases h
    | cons d b =>
      rw [varintWithin] at h
      split at h
      · split at h
        · cases h
        · cases h
          exact List.suffix_cons d _
      · obtain ⟨⟨high, rest'⟩, later, done⟩ := bind_eq_ok.mp h
        cases done
        exact (ih later).trans (List.suffix_cons d b)

theorem readVarint_leaves {n : Nat} {b rest : Bytes} (h : readVarint b = .ok (n, rest)) :
    rest <:+ b :=
  varintWithin_leaves h

theorem readKey_leaves {key : Key} {b rest : Bytes} (h : readKey b = .ok (key, rest)) :
    rest <:+ b := by
  obtain ⟨⟨value, rest'⟩, read, h⟩ := bind_eq_ok.mp h
  by_cases large : UInt32.size ≤ value
  · simp only [if_pos large] at h
    cases h
  · simp only [if_neg large] at h
    split at h
    · cases h
    · split at h
      · cases h
      · cases h
        exact readVarint_leaves read

theorem readDelimited_eq_ok {b v rest : Bytes} : readDelimited b = .ok (v, rest) ↔
    ∃ length inside, readVarint b = .ok (length, inside) ∧
      length ≤ inside.length ∧ inside.take length = v ∧
      inside.drop length = rest := by
  simp only [readDelimited, bind_eq_ok, Prod.exists]
  constructor
  · rintro ⟨length, inside, read, h⟩
    by_cases short : inside.length < length
    · simp only [if_pos short] at h
      cases h
    · simp only [if_neg short] at h
      cases h
      exact ⟨length, inside, read, Nat.not_lt.mp short, rfl, rfl⟩
  · rintro ⟨length, inside, read, long, rfl, rfl⟩
    refine ⟨length, inside, read, ?_⟩
    simp only [if_neg (Nat.not_lt.mpr long)]
    rfl

theorem readDelimited_leaves {b v rest : Bytes} (h : readDelimited b = .ok (v, rest)) :
    rest <:+ b := by
  obtain ⟨length, inside, read, -, -, rfl⟩ := readDelimited_eq_ok.mp h
  exact (List.drop_suffix length inside).trans (readVarint_leaves read)

theorem drop_leaves {count : Nat} {b rest : Bytes} (h : drop count b = .ok rest) : rest <:+ b := by
  unfold drop at h
  split at h
  · cases h
  · cases h
    exact List.drop_suffix count b

theorem skipGroup_leaves {skip : Key → Bytes → Except Fault Bytes} {number fuel : Nat}
    {b rest : Bytes} (skips : ∀ {key b rest}, skip key b = .ok rest → rest <:+ b)
    (h : skipGroup skip number fuel b = .ok rest) : rest <:+ b := by
  induction fuel generalizing b with
  | zero => cases h
  | succ fuel ih =>
    obtain ⟨⟨key, inside⟩, read, h⟩ := bind_eq_ok.mp h
    have front := readKey_leaves read
    simp only at h
    split at h
    · split at h
      · cases h
        exact front
      · cases h
    · obtain ⟨more, skipped, h⟩ := bind_eq_ok.mp h
      exact ((ih h).trans (skips skipped)).trans front

theorem skipValue_leaves {depth : Nat} {key : Key} {b rest : Bytes}
    (h : skipValue depth key b = .ok rest) : rest <:+ b := by
  induction depth generalizing key b rest with
  | zero => cases h
  | succ depth ih =>
    obtain ⟨number, form⟩ := key
    cases form with
    | varint =>
      obtain ⟨⟨n, left⟩, read, ⟨⟩⟩ := bind_eq_ok.mp h
      exact readVarint_leaves read
    | sixtyFourBit => exact drop_leaves h
    | thirtyTwoBit => exact drop_leaves h
    | delimited =>
      obtain ⟨⟨v, left⟩, read, ⟨⟩⟩ := bind_eq_ok.mp h
      exact readDelimited_leaves read
    | startGroup => exact skipGroup_leaves ih h
    | endGroup => cases h

/-- Reading the field leaves an end of the octets. -/
def Field.Advances (f : Field α) : Prop :=
  ∀ depth a key b a' rest, f.read depth a key b = .ok (a', rest) → rest <:+ b

def Field.Case.Advances (c : Field.Case γ) : Prop :=
  ∀ depth v key b v' rest, c.read depth v key b = .ok (v', rest) → rest <:+ b

namespace Message

variable {m : Message α}

/-- Reading any field of the message leaves an end of the octets. -/
def Advances (m : Message α) : Prop := ∀ f ∈ m.fields, f.Advances

theorem within_eq_ok {message field : String} {r : Except Fault α} {a : α} :
    within message field r = .ok a ↔ r = .ok a := by
  cases r <;> simp [within]

theorem Advances.readField (advances : m.Advances) {depth : Nat} {a a' : α} {key : Key}
    {b rest : Bytes} (h : m.readField depth a key b = .ok (a', rest)) : rest <:+ b := by
  unfold Message.readField at h
  split at h
  · rename_i f found
    exact advances f (List.mem_of_find?_eq_some found) _ _ _ _ _ _ (within_eq_ok.mp h)
  · obtain ⟨left, skipped, ⟨⟩⟩ := bind_eq_ok.mp h
    exact skipValue_leaves skipped

theorem Advances.readFields (advances : m.Advances) {depth left fuel : Nat} {a a' : α}
    {b rest : Bytes} (h : m.readFields depth left fuel a b = .ok (a', rest)) : rest <:+ b := by
  induction fuel generalizing a b with
  | zero =>
    cases h
    exact List.suffix_rfl
  | succ fuel ih =>
    rw [Message.readFields] at h
    split at h
    · cases h
      exact List.suffix_rfl
    · obtain ⟨⟨key, inside⟩, read, h⟩ := bind_eq_ok.mp h
      obtain ⟨⟨a₁, later⟩, field, h⟩ := bind_eq_ok.mp h
      exact ((ih h).trans (advances.readField field)).trans (readKey_leaves read)

/-- A nested message takes as many octets as its length says, like a string of octets. -/
theorem Advances.readNested (advances : m.Advances) {depth : Nat} {a a' : α} {key : Key}
    {b rest : Bytes} (h : m.readNested depth a key b = .ok (a', rest)) :
    key.form = .delimited ∧ ∃ v, readDelimited b = .ok (v, rest) := by
  unfold Message.readNested at h
  by_cases form : key.form = .delimited
  · simp only [form, ne_eq, not_true_eq_false, if_false] at h
    refine ⟨form, ?_⟩
    cases depth with
    | zero => cases h
    | succ depth =>
      obtain ⟨⟨length, inside⟩, read, h⟩ := bind_eq_ok.mp h
      by_cases short : inside.length < length
      · simp only [if_pos short] at h
        cases h
      · simp only [if_neg short] at h
        obtain ⟨⟨a₁, later⟩, fields, h⟩ := bind_eq_ok.mp h
        by_cases ends : later.length = inside.length - length
        · simp only [if_pos ends] at h
          cases h
          obtain ⟨front, whole⟩ := advances.readFields fields
          have taken : front.length = length := by
            rw [← whole, List.length_append] at ends short
            omega
          have same : inside.drop length = rest := by rw [← whole, List.drop_left' taken]
          exact ⟨_, readDelimited_eq_ok.mpr ⟨length, inside, read, Nat.not_lt.mp short, rfl, same⟩⟩
        · simp only [if_neg ends] at h
          cases h
  · simp only [ne_eq, form, not_false_eq_true, if_true] at h
    cases h

end Message

namespace Field

variable {tag : Nat} {name : String}

@[simp] theorem number_advances {get : α → Nat} {put : α → Nat → α} :
    (number tag name get put).Advances := by
  intro depth a key b a' rest h
  by_cases form : key.form = .varint
  · simp only [number, form, ne_eq, not_true_eq_false, if_false] at h
    obtain ⟨⟨n, left⟩, read, ⟨⟩⟩ := bind_eq_ok.mp h
    exact readVarint_leaves read
  · simp only [number, ne_eq, form, not_false_eq_true, if_true] at h
    cases h

theorem octets_eq_ok {get : α → Bytes} {put : α → Bytes → α} {depth : Nat} {a a' : α} {key : Key}
    {b rest : Bytes} :
    (octets tag name get put).read depth a key b = .ok (a', rest) ↔
      key.form = .delimited ∧ ∃ v, readDelimited b = .ok (v, rest) ∧ put a v = a' := by
  by_cases form : key.form = .delimited
  · simp only [octets, form, ne_eq, not_true_eq_false, if_false, bind_eq_ok, true_and, Prod.exists,
      pure_eq_ok, Prod.mk.injEq]
    constructor
    · rintro ⟨v, rest', read, same, rfl⟩
      exact ⟨v, read, same⟩
    · rintro ⟨v, read, same⟩
      exact ⟨v, rest, read, same, rfl⟩
  · simp only [octets, ne_eq, form, not_false_eq_true, if_true, false_and, iff_false]
    nofun

theorem text_eq_ok {get : α → String} {put : α → String → α} {depth : Nat} {a a' : α} {key : Key}
    {b rest : Bytes} :
    (text tag name get put).read depth a key b = .ok (a', rest) ↔
      key.form = .delimited ∧ ∃ v s, readDelimited b = .ok (v, rest) ∧
        Bytes.toText? v = some s ∧ put a s = a' := by
  by_cases form : key.form = .delimited
  · simp only [text, form, ne_eq, not_true_eq_false, if_false, bind_eq_ok, true_and, Prod.exists]
    constructor
    · rintro ⟨v, rest', read, h⟩
      split at h
      · cases h
      · rename_i s valid
        cases h
        exact ⟨v, s, read, valid, rfl⟩
    · rintro ⟨v, s, read, valid, rfl⟩
      refine ⟨v, rest, read, ?_⟩
      simp only [valid]
      rfl
  · simp only [text, ne_eq, form, not_false_eq_true, if_true, false_and, iff_false]
    nofun

@[simp] theorem octets_advances {get : α → Bytes} {put : α → Bytes → α} :
    (octets tag name get put).Advances := by
  intro depth a key b a' rest h
  obtain ⟨-, v, read, -⟩ := octets_eq_ok.mp h
  exact readDelimited_leaves read

@[simp] theorem text_advances {get : α → String} {put : α → String → α} :
    (text tag name get put).Advances := by
  intro depth a key b a' rest h
  obtain ⟨-, v, s, read, -⟩ := text_eq_ok.mp h
  exact readDelimited_leaves read

theorem nested_eq_ok {m : Message β} (advances : m.Advances) {get : α → Option β} {put : α → β → α}
    {depth : Nat} {a a' : α} {key : Key} {b rest : Bytes}
    (h : (nested tag name m get put).read depth a key b = .ok (a', rest)) :
    key.form = .delimited ∧ (∃ octets, readDelimited b = .ok (octets, rest)) ∧
      ∃ v, put a v = a' := by
  obtain ⟨⟨v, left⟩, read, ⟨⟩⟩ := bind_eq_ok.mp h
  obtain ⟨form, octets⟩ := advances.readNested read
  exact ⟨form, octets, v, rfl⟩

theorem nested_advances {m : Message β} (advances : m.Advances) {get : α → Option β}
    {put : α → β → α} : (nested tag name m get put).Advances := by
  intro depth a key b a' rest h
  obtain ⟨-, ⟨v, read⟩, -⟩ := nested_eq_ok advances h
  exact readDelimited_leaves read

theorem Case.of_advances {m : Message β} (advances : m.Advances) {wrap : β → γ}
    {pick : γ → Option β} : (Case.of tag m wrap pick).Advances := by
  intro depth v key b v' rest h
  obtain ⟨⟨w, left⟩, read, ⟨⟩⟩ := bind_eq_ok.mp h
  obtain ⟨-, octets, read⟩ := advances.readNested read
  exact readDelimited_leaves read

theorem oneOf_advances {cases : List (Case γ)} (each : ∀ c ∈ cases, c.Advances) {get : α → Option γ}
    {put : α → γ → α} : (oneOf name cases get put).Advances := by
  intro depth a key b a' rest h
  unfold oneOf at h
  simp only at h
  split at h
  · cases h
    exact List.suffix_rfl
  · rename_i c found
    obtain ⟨⟨v, left⟩, read, ⟨⟩⟩ := bind_eq_ok.mp h
    exact each c (List.mem_of_find?_eq_some found) _ _ _ _ _ _ read

end Field

theorem Message.readField_unknown {m : Message α} {depth : Nat} {a a' : α} {key : Key}
    {b rest : Bytes} (unknown : (m.fields.find? fun f => f.numbers.contains key.number) = none) :
    m.readField depth a key b = .ok (a', rest) ↔ a = a' ∧ skipValue depth key b = .ok rest := by
  simp only [readField, unknown, bind_eq_ok, pure_eq_ok, Prod.mk.injEq]
  constructor
  · rintro ⟨left, skipped, rfl, rfl⟩
    exact ⟨rfl, skipped⟩
  · rintro ⟨rfl, skipped⟩
    exact ⟨rest, skipped, rfl, rfl⟩

/-- Two formats that read the same octets stay in step: if every field leaves the same octets in
both and keeps what the two messages have in common, so does the whole. -/
theorem Message.readFields_in_step {m : Message α} {m' : Message β} {Common : α → β → Prop}
    {depth : Nat}
    (step : ∀ {key a c b a' c' rest rest'}, Common a c →
      m.readField depth a key b = .ok (a', rest) → m'.readField depth c key b = .ok (c', rest') →
      rest = rest' ∧ Common a' c')
    {left fuel : Nat} {a a' : α} {c c' : β} {b rest rest' : Bytes} (common : Common a c)
    (h : m.readFields depth left fuel a b = .ok (a', rest))
    (h' : m'.readFields depth left fuel c b = .ok (c', rest')) : Common a' c' := by
  induction fuel generalizing a c b with
  | zero =>
    cases h
    cases h'
    exact common
  | succ fuel ih =>
    rw [readFields] at h h'
    split at h
    · rename_i done
      rw [if_pos done] at h'
      cases h
      cases h'
      exact common
    · rename_i more
      rw [if_neg more] at h'
      obtain ⟨⟨key, inside⟩, read, h⟩ := bind_eq_ok.mp h
      obtain ⟨⟨key', inside'⟩, read', h'⟩ := bind_eq_ok.mp h'
      cases read.symm.trans read'
      obtain ⟨⟨a₁, later⟩, field, h⟩ := bind_eq_ok.mp h
      obtain ⟨⟨c₁, later'⟩, field', h'⟩ := bind_eq_ok.mp h'
      obtain ⟨rfl, kept⟩ := step common field field'
      exact ih kept h h'

theorem Message.decode_in_step {m : Message α} {m' : Message β} {Common : α → β → Prop}
    (step : ∀ {key a c b a' c' rest rest'}, Common a c →
      m.readField maxDepth a key b = .ok (a', rest) →
      m'.readField maxDepth c key b = .ok (c', rest') → rest = rest' ∧ Common a' c')
    (common : Common m.empty m'.empty) {b : Bytes} {a : α} {c : β}
    (h : m.decode b = .ok a) (h' : m'.decode b = .ok c) : Common a c := by
  obtain ⟨⟨a', rest⟩, fields, ⟨⟩⟩ := bind_eq_ok.mp h
  obtain ⟨⟨c', rest'⟩, fields', ⟨⟩⟩ := bind_eq_ok.mp h'
  exact readFields_in_step step common fields fields'

end LedgerGateway.Wire
