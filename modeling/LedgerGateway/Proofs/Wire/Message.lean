import LedgerGateway.Proofs.Wire.Varint
import LedgerGateway.Proofs.Bytes.Hex
import LedgerGateway.Wire.Message

/-!
# Messages are read back

A message is written field by field, and reading it starts from the empty message and takes in
one field after the other. `Field.Carries` says what reading one written field does, `Carried`
what reading a run of them does, and `Message.decode_encode` that all fields together lead from
the empty message to the one that was written. Nothing but lengths of `2 ^ 64` octets and more
stands in the way.
-/

namespace LedgerGateway.Wire

open Outcome

variable {α β γ : Type}

/-- Reading what the field writes of `a` turns the message `s` into `t`. A part like the empty one
is not written, and then nothing changes. -/
inductive Field.Carries (f : Field α) (depth : Nat) (a s : α) : α → Prop where
  | absent (nothing : f.write a = []) : f.Carries depth a s s
  | present (key : Key) (value : Bytes) {t : α} (written : f.write a = writeKey key ++ value)
      (named : key.number ∈ f.numbers) (writable : key.Writable)
      (read : ∀ rest, f.read depth s key (value ++ rest) = .ok (t, rest)) : f.Carries depth a s t

/-- The same for fields in order. -/
inductive Carried (depth : Nat) (a : α) : List (Field α) → α → α → Prop where
  | nil {s : α} : Carried depth a [] s s
  | cons {f : Field α} {fs : List (Field α)} {s t u : α} (head : f.Carries depth a s t)
      (tail : Carried depth a fs t u) : Carried depth a (f :: fs) s u

theorem length_writeKey_pos (k : Key) : 0 < (writeKey k).length :=
  List.length_pos_iff.mpr (writeVarint_ne_nil _)

namespace Message

variable {m : Message α}

/-- No number belongs to two fields. -/
def Unambiguous (m : Message α) : Prop := (m.fields.flatMap Field.numbers).Nodup

instance (m : Message α) : Decidable m.Unambiguous := by unfold Unambiguous; infer_instance

theorem find?_of_nodup {fs : List (Field α)} (h : (fs.flatMap Field.numbers).Nodup) {f : Field α}
    (hf : f ∈ fs) {number : Nat} (named : number ∈ f.numbers) :
    (fs.find? fun g => g.numbers.contains number) = some f := by
  induction fs with
  | nil => cases hf
  | cons g fs ih =>
    rw [List.flatMap_cons, List.nodup_append] at h
    obtain ⟨-, tail, apart⟩ := h
    rcases List.mem_cons.mp hf with rfl | later
    · exact List.find?_cons_of_pos (List.contains_iff_mem.mpr named)
    · have other : g.numbers.contains number = false := by
        rw [← Bool.not_eq_true, List.contains_iff_mem]
        exact fun here => apart _ here _ (List.mem_flatMap.mpr ⟨f, later, named⟩) rfl
      rw [List.find?_cons, other]
      exact ih tail later

/-- Written fields are read one by one until only `rest` is left. -/
theorem readFields_carried (unambiguous : m.Unambiguous) {depth : Nat} {a s t : α}
    {fs : List (Field α)} (h : Carried depth a fs s t) (known : ∀ f ∈ fs, f ∈ m.fields)
    (rest : Bytes) {fuel : Nat} (enough : (fs.flatMap fun f => f.write a).length ≤ fuel) :
    m.readFields depth rest.length fuel s ((fs.flatMap fun f => f.write a) ++ rest) =
      .ok (t, rest) := by
  -- a field that was left out costs no fuel, and one that was written has at least the octet of its
  -- key
  induction h generalizing fuel with
  | nil =>
    cases fuel with
    | zero => rfl
    | succ fuel => exact if_pos (Nat.le_refl _)
  | cons head tail ih =>
    rename_i f fs s t u
    obtain ⟨here, later⟩ := List.forall_mem_cons.mp known
    rw [List.flatMap_cons] at enough ⊢
    cases head with
    | absent nothing =>
      rw [nothing, List.nil_append] at enough ⊢
      exact ih later enough
    | present key value written named writable read =>
      have step := length_writeKey_pos key
      rw [written] at enough ⊢
      simp only [List.length_append] at enough
      cases fuel with
      | zero => omega
      | succ fuel =>
        have found := find?_of_nodup unambiguous here named
        rw [readFields, if_neg (by simp only [List.length_append]; omega), List.append_assoc,
          List.append_assoc, readKey_writeKey writable]
        simp only [bind, Except.bind, readField, found, read, within]
        exact ih later (by omega)

/-- A message whose first field cannot be read is refused, whatever stands behind that field. -/
theorem decode_refused (unambiguous : m.Unambiguous) {f : Field α} (hf : f ∈ m.fields) {key : Key}
    (named : key.number ∈ f.numbers) (writable : key.Writable) {value : Bytes}
    (refused : ∀ r, f.read maxDepth m.empty key value ≠ .ok r) (a : α) :
    m.decode (writeKey key ++ value) ≠ .ok a := by
  intro h
  have long := length_writeKey_pos key
  obtain ⟨fuel, hfuel⟩ : ∃ fuel, (writeKey key ++ value).length = fuel + 1 :=
    ⟨(writeKey key ++ value).length - 1, by rw [List.length_append]; omega⟩
  have found := find?_of_nodup unambiguous hf named
  rw [decode, hfuel, readFields, if_neg (by omega), readKey_writeKey writable] at h
  simp only [bind, Except.bind, readField, found] at h
  cases read : f.read maxDepth m.empty key value with
  | ok r => exact refused r read
  | error e => simp [read, within] at h

theorem decode_of_carried (unambiguous : m.Unambiguous) {a : α}
    (h : Carried maxDepth a m.fields m.empty a) : m.decode (m.encode a) = .ok a := by
  have read := readFields_carried unambiguous h (fun _ hf => hf) [] (Nat.le_refl _)
  rw [List.append_nil, List.length_nil] at read
  rw [decode, encode, read]
  rfl

/-- Whatever has a length is read back, as long as messages may still be nested `height` deep. -/
structure Faithful (m : Message α) (height : Nat) : Prop where
  unambiguous : m.Unambiguous
  carried : ∀ depth, height ≤ depth → ∀ a, (m.encode a).length < UInt64.size →
    Carried depth a m.fields m.empty a

theorem Faithful.decode_encode {height : Nat} (h : m.Faithful height) (shallow : height ≤ maxDepth)
    {a : α} (sized : (m.encode a).length < UInt64.size) : m.decode (m.encode a) = .ok a :=
  decode_of_carried h.unambiguous (h.carried _ shallow a sized)

theorem Faithful.readNested {height : Nat} (h : m.Faithful height) {depth : Nat}
    (deep : height ≤ depth) {a : α} (sized : (m.encode a).length < UInt64.size) (number : Nat)
    (rest : Bytes) :
    m.readNested (depth + 1) m.empty ⟨number, .delimited⟩ (writeDelimited (m.encode a) ++ rest) =
      .ok (a, rest) := by
  have enough : (m.encode a).length ≤ (m.encode a ++ rest).length := by
    rw [List.length_append]
    omega
  have inside :=
    readFields_carried h.unambiguous (h.carried depth deep a sized) (fun _ hf => hf) rest enough
  have left : (m.encode a ++ rest).length - (m.encode a).length = rest.length := by
    rw [List.length_append]
    omega
  rw [Message.readNested, if_neg (by simp), writeDelimited, List.append_assoc]
  simp only [readVarint_of_lt sized, bind, Except.bind, pure, Except.pure, left]
  rw [if_neg (by rw [List.length_append]; omega)]
  simp only [encode] at inside ⊢
  rw [inside]
  exact if_pos rfl

/-- Every part of a message is at most as long as the whole. -/
theorem length_write_le {a : α} {f : Field α} (hf : f ∈ m.fields) :
    (f.write a).length ≤ (m.encode a).length := by
  have part : f.write a ∈ m.fields.map fun g => g.write a := List.mem_map_of_mem hf
  rw [encode, List.flatMap_def]
  exact (List.sublist_flatten_of_mem part).length_le

end Message

theorem length_le_writeDelimited (b : Bytes) : b.length ≤ (writeDelimited b).length := by
  rw [writeDelimited, List.length_append]
  omega

namespace Field

variable {a s : α} {tag depth : Nat} {name : String}

/-- The numbers of fields that can be written. -/
def Numbered (tag : Nat) : Prop := tag ≠ 0 ∧ tag * 8 + 5 < UInt32.size

instance (tag : Nat) : Decidable (Numbered tag) := by unfold Numbered; infer_instance

theorem carries_number {get : α → Nat} {put : α → Nat → α} (numbered : Numbered tag)
    (sized : get a < UInt64.size) (zero : put s 0 = s) :
    (number tag name get put).Carries depth a s (put s (get a)) := by
  by_cases absent : get a = 0
  · rw [absent, zero]
    exact .absent (if_pos absent)
  · refine .present ⟨tag, .varint⟩ _ (if_neg absent) (by simp [number]) ⟨numbered.1, numbered.2⟩
      fun rest => ?_
    simp only [number, ne_eq, not_true_eq_false, if_false, readVarint_of_lt sized]
    rfl

theorem carries_octets {get : α → Bytes} {put : α → Bytes → α} (numbered : Numbered tag)
    (sized : (get a).length < UInt64.size) (empty : put s [] = s) :
    (octets tag name get put).Carries depth a s (put s (get a)) := by
  by_cases absent : get a = []
  · rw [absent, empty]
    exact .absent (if_pos absent)
  · refine .present ⟨tag, .delimited⟩ _ (if_neg absent) (by simp [octets]) ⟨numbered.1, numbered.2⟩
      fun rest => ?_
    simp only [octets, ne_eq, not_true_eq_false, if_false, readDelimited_writeDelimited sized]
    rfl

theorem octets_refused {get : α → Bytes} {put : α → Bytes → α} {b : Bytes}
    (long : ¬ b.length < UInt64.size) (rest : Bytes) (r : α × Bytes) :
    (octets tag name get put).read depth s ⟨tag, .delimited⟩ (writeDelimited b ++ rest) ≠
      .ok r := by
  simp only [octets, ne_eq, not_true_eq_false, if_false, readDelimited_refused long]
  rintro ⟨⟩

/-- A field of octets is at least as long as the octets. -/
theorem length_octets_le {get : α → Bytes} {put : α → Bytes → α} :
    (get a).length ≤ ((octets tag name get put).write a).length := by
  by_cases absent : get a = []
  · rw [absent]
    exact Nat.zero_le _
  · have whole := length_le_writeDelimited (get a)
    simp only [octets, if_neg absent, List.length_append]
    omega

theorem length_text_le {get : α → String} {put : α → String → α} :
    (Bytes.ofText (get a)).length ≤ ((text tag name get put).write a).length := by
  by_cases absent : get a = ""
  · rw [absent]
    exact Nat.zero_le _
  · have whole := length_le_writeDelimited (Bytes.ofText (get a))
    simp only [text, if_neg absent, List.length_append]
    omega

theorem carries_text {get : α → String} {put : α → String → α} (numbered : Numbered tag)
    (sized : (Bytes.ofText (get a)).length < UInt64.size) (empty : put s "" = s) :
    (text tag name get put).Carries depth a s (put s (get a)) := by
  by_cases absent : get a = ""
  · rw [absent, empty]
    exact .absent (if_pos absent)
  · refine .present ⟨tag, .delimited⟩ _ (if_neg absent) (by simp [text]) ⟨numbered.1, numbered.2⟩
      fun rest => ?_
    simp only [text, ne_eq, not_true_eq_false, if_false, readDelimited_writeDelimited sized]
    simp only [bind, Except.bind, pure, Except.pure, Bytes.toText?_ofText]

theorem carries_nested {m : Message β} {height : Nat} (faithful : m.Faithful height)
    (deep : height < depth) {get : α → Option β} {put : α → β → α} (numbered : Numbered tag)
    (sized : ∀ v, get a = some v → (m.encode v).length < UInt64.size) (fresh : get s = none) :
    (nested tag name m get put).Carries depth a s ((get a).elim s (put s)) := by
  cases present : get a with
  | none => exact .absent (by simp only [nested, present])
  | some v =>
    obtain ⟨deeper, rfl⟩ : ∃ d, depth = d + 1 := ⟨depth - 1, by omega⟩
    refine .present ⟨tag, .delimited⟩ (writeDelimited (m.encode v))
      (by simp only [nested, present, Message.writeNested]) (by simp [nested])
      ⟨numbered.1, numbered.2⟩ fun rest => ?_
    have inside := faithful.readNested (Nat.le_of_lt_succ deep) (sized v present) tag rest
    simp only [nested, fresh, Option.getD_none, inside]
    rfl

/-- The alternative is the one that is written, and its octets make an empty part into it. -/
def CarriesCase (cases : List (Case γ)) (depth : Nat) (v : γ) : Prop :=
  ∃ tag value case,
    (cases.findSome? fun c => c.write? v) = some (writeKey ⟨tag, .delimited⟩ ++ value) ∧
    Numbered tag ∧ (cases.find? fun c => c.number == tag) = some case ∧
    ∀ rest, case.read depth none ⟨tag, .delimited⟩ (value ++ rest) = .ok (v, rest)

theorem carriesCase_of {cases : List (Case γ)} {m : Message β} {height : Nat}
    (faithful : m.Faithful height) (deep : height < depth) {wrap : β → γ} {pick : γ → Option β}
    {v : γ} {body : β} (numbered : Numbered tag)
    (sized : ((cases.findSome? fun c => c.write? v).getD []).length < UInt64.size)
    (first : (cases.findSome? fun c => c.write? v) = some (m.writeNested tag body))
    (found : (cases.find? fun c => c.number == tag) = some (.of tag m wrap pick))
    (wrapped : wrap body = v) : CarriesCase cases depth v := by
  obtain ⟨deeper, rfl⟩ : ∃ d, depth = d + 1 := ⟨depth - 1, by omega⟩
  have short : (m.encode body).length < UInt64.size := by
    have whole := length_le_writeDelimited (m.encode body)
    rw [first, Option.getD_some, Message.writeNested, List.length_append] at sized
    omega
  refine ⟨tag, writeDelimited (m.encode body), _, first, numbered, found, fun rest => ?_⟩
  have inside := faithful.readNested (Nat.le_of_lt_succ deep) short tag rest
  simp only [Case.of, Option.bind_none, Option.getD_none, inside, ← wrapped]
  rfl

theorem carries_oneOf {cases : List (Case γ)} {get : α → Option γ} {put : α → γ → α}
    (each : ∀ v, get a = some v → CarriesCase cases depth v) (fresh : get s = none) :
    (oneOf name cases get put).Carries depth a s ((get a).elim s (put s)) := by
  cases present : get a with
  | none => exact .absent (by simp only [oneOf, present])
  | some v =>
    obtain ⟨tag, value, case, written, numbered, found, read⟩ := each v present
    have same := List.find?_some found
    have named : tag ∈ cases.map Case.number :=
      List.mem_map.mpr ⟨case, List.mem_of_find?_eq_some found, eq_of_beq same⟩
    refine .present ⟨tag, .delimited⟩ value
      (by simp only [oneOf, present, written, Option.getD_some]) named
      ⟨numbered.1, numbered.2⟩ fun rest => ?_
    simp only [oneOf, found, fresh, read]
    rfl

end Field

/-- Fields whose parts all have a length take `s` to `t`. -/
def Restores (depth : Nat) (a : α) (fs : List (Field α)) (s t : α) : Prop :=
  (∀ f ∈ fs, (f.write a).length < UInt64.size) → Carried depth a fs s t

namespace Restores

variable {depth tag : Nat} {name : String} {a s t : α} {fs : List (Field α)}

theorem done (h : s = t) : Restores depth a [] s t := fun _ => h ▸ .nil

theorem step {f : Field α} {u : α} (head : (f.write a).length < UInt64.size → f.Carries depth a s t)
    (tail : Restores depth a fs t u) : Restores depth a (f :: fs) s u := fun sized =>
  .cons (head (sized f (by simp))) (tail fun g hg => sized g (by simp [hg]))

theorem number {get : α → Nat} {put : α → Nat → α} (numbered : Field.Numbered tag)
    (word : get a < UInt64.size) (zero : put s 0 = s)
    (tail : Restores depth a fs (put s (get a)) t) :
    Restores depth a (.number tag name get put :: fs) s t :=
  step (fun _ => Field.carries_number numbered word zero) tail

theorem octets {get : α → Bytes} {put : α → Bytes → α} (numbered : Field.Numbered tag)
    (empty : put s [] = s) (tail : Restores depth a fs (put s (get a)) t) :
    Restores depth a (.octets tag name get put :: fs) s t := by
  refine step (fun sized => Field.carries_octets numbered ?_ empty) tail
  exact Nat.lt_of_le_of_lt Field.length_octets_le sized

theorem text {get : α → String} {put : α → String → α} (numbered : Field.Numbered tag)
    (empty : put s "" = s) (tail : Restores depth a fs (put s (get a)) t) :
    Restores depth a (.text tag name get put :: fs) s t := by
  refine step (fun sized => Field.carries_text numbered ?_ empty) tail
  exact Nat.lt_of_le_of_lt Field.length_text_le sized

theorem nested {m : Message β} {height : Nat} (faithful : m.Faithful height) (deep : height < depth)
    {get : α → Option β} {put : α → β → α} {u : α} (numbered : Field.Numbered tag)
    (fresh : get s = none) (next : (get a).elim s (put s) = u) (tail : Restores depth a fs u t) :
    Restores depth a (.nested tag name m get put :: fs) s t := by
  refine step (fun sized =>
    next ▸ Field.carries_nested faithful deep numbered (fun v present => ?_) fresh) tail
  have whole := length_le_writeDelimited (m.encode v)
  simp only [Field.nested, present, Message.writeNested, List.length_append] at sized
  omega

theorem oneOf {cases : List (Field.Case γ)} {get : α → Option γ} {put : α → γ → α}
    (each : ∀ v, ((cases.findSome? fun c => c.write? v).getD []).length < UInt64.size →
      Field.CarriesCase cases depth v)
    {u : α} (fresh : get s = none) (next : (get a).elim s (put s) = u)
    (tail : Restores depth a fs u t) :
    Restores depth a (.oneOf name cases get put :: fs) s t := by
  refine step (fun sized => next ▸ Field.carries_oneOf (fun v present => each v ?_) fresh) tail
  simpa only [Field.oneOf, present] using sized

end Restores

theorem Message.faithful_of_restores {m : Message α} {height : Nat} (unambiguous : m.Unambiguous)
    (restores : ∀ depth, height ≤ depth → ∀ a, Restores depth a m.fields m.empty a) :
    m.Faithful height where
  unambiguous := unambiguous
  carried depth deep a sized :=
    restores depth deep a fun _ hf => Nat.lt_of_le_of_lt (length_write_le hf) sized

end LedgerGateway.Wire
