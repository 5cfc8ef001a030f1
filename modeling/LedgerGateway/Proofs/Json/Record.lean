import LedgerGateway.Json.Record
import LedgerGateway.Proofs.Address.Text
import LedgerGateway.Proofs.Outcome
import Mathlib.Data.List.Nodup

/-!
# Records are read back from JSON

A structure is written as an object with a member for each field, and what is absent may be left
out. Reading finds a field by its name, so all that matters of an object is which value stands under
which name (`Record.value?`). Each kind of field has one law (`required_back`, `optional_back`), and
a structure is read back when all its fields are.
-/

namespace LedgerGateway.Json

open Outcome

/-- Whatever is written is read as what it was. -/
def ReadsBack {α : Type} (read : Json → Fit α) (write : α → Json) : Prop :=
  ∀ a, read (write a) = .ok a

/-! ### Plain values -/

theorem text_back : ReadsBack asText .text := fun _ => rfl

theorem members_back : ReadsBack asMembers .object := fun _ => rfl

theorem binary_back : ReadsBack asBinary .binary := fun _ => rfl

/-- Null takes the place of no number that is finite. -/
theorem map_ofBinary {o : Option Binary64} (finite : ∀ x ∈ o, x.isFinite = true) :
    o.map ofBinary = o.map Json.binary := by
  cases o with
  | none => rfl
  | some x => exact congrArg some (if_pos (finite x rfl))

theorem asInteger_of_bounds {low high n : Int} (h : low ≤ n ∧ n < high) :
    asInteger low high (.integer n) = .ok n :=
  if_pos h

theorem word_back : ReadsBack asUInt64 ofWord := by
  intro n
  have small := n.toNat_lt
  rw [asUInt64, ofWord, asInteger_of_bounds (by omega), Except.map, Int.toNat_natCast,
    UInt64.ofNat_toNat]

theorem ofUInt32_back : ReadsBack asUInt32 fun n => .integer n.toNat := by
  intro n
  have small := n.toNat_lt
  rw [asUInt32, asInteger_of_bounds (by omega), Except.map, Int.toNat_natCast, UInt32.ofNat_toNat]

theorem ofInt64_back : ReadsBack asInt64 fun n => .integer n.toInt := by
  intro n
  have lower := n.le_toInt
  have upper := n.toInt_lt
  rw [asInt64, asInteger_of_bounds (by omega), Except.map, Int64.ofInt_toInt]

/-- A name that is found under itself is read back, whatever may follow a name that stands as a
key. -/
theorem name_back {α : Type} {ofName? : String → Option α} {name : α → String}
    (found : ∀ a, ofName? (name a) = some a) (filler : Filler) :
    ReadsBack (asName filler ofName?) fun a => .text (name a) := by
  intro a
  simp only [asName, nameOf, found]

theorem list_back {α : Type} {read : Json → Fit α} {write : α → Json}
    (back : ReadsBack read write) : ReadsBack (asList read) fun xs => .array (xs.map write) := by
  intro xs
  rw [asList, mapM_eq_ok, List.forall₂_map_left_iff, List.forall₂_same]
  exact fun a _ => back a

theorem address_back : ReadsBack asAddress fun a => .text a.text := by
  intro a
  rw [asAddress, bind_eq_ok]
  exact ⟨a.text, rfl, mapError_eq_ok.mpr (Address.ofText_text a)⟩

/-! ### Records -/

namespace Record

/-- What stands under a name. -/
def value? (r : Record) (name : String) : Option Json := (r.slot? name).map Prod.snd

theorem hasRepeated_of_nodup {names : List String} (h : names.Nodup) :
    hasRepeated names = false := by
  induction names with
  | nil => rfl
  | cons n rest ih =>
    obtain ⟨fresh, distinct⟩ := List.nodup_cons.mp h
    rw [hasRepeated, ih distinct, Bool.or_false, ← Bool.not_eq_true, List.contains_iff_mem]
    exact fresh

/-- The members with their places, as reading finds them. -/
def slotsFrom (ms : List (String × Json)) (place : Nat) : List (String × Nat × Json) :=
  (ms.zipIdx place).map fun m => (m.1.1, m.2, m.1.2)

theorem map_fst_slotsFrom (ms : List (String × Json)) (place : Nat) :
    (slotsFrom ms place).map Prod.fst = ms.map Prod.fst := by
  induction ms generalizing place with
  | nil => rfl
  | cons m ms ih => exact congrArg (m.1 :: ·) (ih (place + 1))

theorem filterMap_zipIdx {ms : List (String × Json)}
    {f : (String × Json) × Nat → Option (String × Nat × Json)}
    (known : ∀ m ∈ ms, ∀ place, f (m, place) = some (m.1, place, m.2)) (place : Nat) :
    (ms.zipIdx place).filterMap f = slotsFrom ms place := by
  rw [slotsFrom, ← List.filterMap_eq_map]
  apply List.filterMap_congr
  intro m hm
  exact known m.1 (List.fst_mem_of_mem_zipIdx hm) m.2

/-- Under a name stands what the member with that name holds. -/
theorem value?_slotsFrom {ms : List (String × Json)} (distinct : (ms.map Prod.fst).Nodup)
    (place size : Nat) (name : String) (v : Json) :
    value? ⟨slotsFrom ms place, size⟩ name = some v ↔ (name, v) ∈ ms := by
  induction ms generalizing place with
  | nil => simp [value?, slot?, slotsFrom]
  | cons m ms ih =>
    obtain ⟨fresh, distinct⟩ := List.nodup_cons.mp distinct
    by_cases here : m.1 = name
    · subst here
      have other : (m.1, v) ∉ ms := fun later => fresh (List.mem_map.mpr ⟨_, later, rfl⟩)
      simp [value?, slot?, slotsFrom, List.zipIdx_cons, List.mem_cons, other, Prod.ext_iff, eq_comm]
    · have same : value? ⟨slotsFrom (m :: ms) place, size⟩ name =
          value? ⟨slotsFrom ms (place + 1), size⟩ name := by
        simp [value?, slot?, slotsFrom, List.zipIdx_cons, here]
      have apart : (name, v) ≠ m := fun equal => here (congrArg Prod.fst equal).symm
      rw [same, ih distinct, List.mem_cons, or_iff_right apart]

section
variable {α : Type} {names : List String} {build : Record → Reading α} {a : α}

/-- An object with distinct known names is read by what stands under them. -/
theorem read_object {ms : List (String × Json)} (distinct : (ms.map Prod.fst).Nodup)
    (known : ∀ m ∈ ms, m.1 ∈ names)
    (h : ∀ r : Record, (∀ name v, r.value? name = some v ↔ (name, v) ∈ ms) → build r = pure a) :
    read names build (.object ms) = .ok a := by
  have once : hasRepeated ((slotsFrom ms 0).map Prod.fst) = false := by
    rw [map_fst_slotsFrom]
    exact hasRepeated_of_nodup distinct
  simp only [read, ofMembers]
  rw [filterMap_zipIdx, once, if_neg Bool.false_ne_true,
    h _ (value?_slotsFrom distinct 0 ms.length)]
  · rfl
  · intro m hm place
    exact if_pos (List.contains_iff_mem.mpr (known m hm))

theorem read_members {ms : List (String × Json)} (distinct : names.Nodup)
    (same : ms.map Prod.fst = names)
    (h : ∀ r : Record, (ms.Forall fun m => r.value? m.1 = some m.2) → build r = pure a) :
    read names build (.object ms) = .ok a := by
  subst same
  apply read_object distinct fun m hm => List.mem_map_of_mem hm
  intro r written
  apply h
  rw [List.forall_iff_forall_mem]
  intro m hm
  exact (written m.1 m.2).mpr hm

theorem mem_present {ms : List (String × Option Json)} {name : String} {v : Json} :
    (name, v) ∈ present ms ↔ (name, some v) ∈ ms := by
  simp [present, List.mem_filterMap]

theorem sublist_present (ms : List (String × Option Json)) :
    ((present ms).map Prod.fst).Sublist (ms.map Prod.fst) := by
  induction ms with
  | nil => exact .slnil
  | cons m ms ih =>
    obtain ⟨name, _ | v⟩ := m
    · exact ih.cons name
    · exact ih.cons_cons name

/-- The same where absent fields are left out: nothing stands under their names. -/
theorem read_present {ms : List (String × Option Json)} (distinct : names.Nodup)
    (same : ms.map Prod.fst = names)
    (h : ∀ r : Record, (ms.Forall fun m => r.value? m.1 = m.2) → build r = pure a) :
    read names build (.object (present ms)) = .ok a := by
  subst same
  apply read_object (distinct.sublist (sublist_present ms))
    fun m hm => (sublist_present ms).subset (List.mem_map_of_mem hm)
  intro r written
  apply h
  rw [List.forall_iff_forall_mem]
  intro m hm
  apply Option.ext
  intro v
  rw [written, mem_present]
  constructor
  · intro hv
    exact congrArg Prod.snd (List.inj_on_of_nodup_map distinct hm hv rfl)
  · intro hv
    rwa [← hv]

end

/-! ### Fields -/

section
variable {α : Type} {r : Record} {name : String} {read : Json → Fit α} {write : α → Json}

theorem required_of_read {j : Json} {a : α} (fits : read j = .ok a)
    (written : r.value? name = some j) : r.required name read = pure a := by
  obtain ⟨⟨place, j⟩, found, rfl⟩ := Option.map_eq_some_iff.mp written
  rw [required, found]
  simp only [fits]
  rfl

theorem required_back (back : ReadsBack read write) {a : α}
    (written : r.value? name = some (write a)) :
    r.required name read = pure a := required_of_read (back a) written

theorem withDefault_back {default a : α} (written : r.value? name = none ∧ a = default ∨
    ∃ j, r.value? name = some j ∧ read j = .ok a) : r.withDefault name default read = pure a := by
  obtain ⟨absent, rfl⟩ | ⟨j, written, fits⟩ := written
  · rw [withDefault, Option.map_eq_none_iff.mp absent]
    rfl
  · obtain ⟨⟨place, j⟩, found, rfl⟩ := Option.map_eq_some_iff.mp written
    rw [withDefault, found]
    simp only [fits]
    rfl

theorem present_back (back : ReadsBack read write) {default a : α}
    (written : r.value? name = some (write a)) : r.withDefault name default read = pure a :=
  withDefault_back (.inr ⟨write a, written, back a⟩)

/-- A list that is left out when it is empty. -/
theorem omitted_back (back : ReadsBack read write) {xs : List α} [Decidable (xs = [])]
    (written : r.value? name = if xs = [] then none else some (.array (xs.map write))) :
    r.withDefault name [] (asList read) = pure xs := by
  by_cases empty : xs = []
  · rw [if_pos empty] at written
    exact withDefault_back (.inl ⟨written, empty⟩)
  · rw [if_neg empty] at written
    exact present_back (list_back back) written

/-- Null would read as absent too, so nothing that is there may be written as it. -/
theorem option_back (back : ReadsBack read write) (notNull : ∀ a, write a ≠ .null) (a : α) :
    asOption read (write a) = .ok (some a) := by
  unfold asOption
  split
  · rename_i null
    exact absurd null (notNull a)
  · rw [back a]
    rfl

/-- A field that is left out when it is absent. -/
theorem optional_back (back : ReadsBack read write) (notNull : ∀ a, write a ≠ .null) {o : Option α}
    (written : r.value? name = o.map write) : r.optional name read = pure o := by
  apply withDefault_back
  cases o with
  | none => exact .inl ⟨written, rfl⟩
  | some a => exact .inr ⟨write a, written, option_back back notNull a⟩

/-- A field that is null when it is absent. -/
theorem nullable_back (back : ReadsBack read write) (notNull : ∀ a, write a ≠ .null) {o : Option α}
    (written : r.value? name = some ((o.map write).getD .null)) :
    r.optional name read = pure o := by
  apply withDefault_back
  cases o with
  | none => exact .inr ⟨.null, written, rfl⟩
  | some a => exact .inr ⟨write a, written, option_back back notNull a⟩

end

end Record

end LedgerGateway.Json
