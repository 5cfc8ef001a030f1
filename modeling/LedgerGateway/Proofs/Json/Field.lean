import LedgerGateway.Proofs.Json.Record

/-!
# What a record was read from

A record is an object, or an array of its fields in order, and either way there is one value that a
field was read from (`field?`). A record that was read has all the fields that must be there, and
each of them was read.
-/

namespace LedgerGateway.Json

open Outcome

/-- What stands for a field of a record: under its name in an object, in its place in an array. -/
def field? (names : List String) (name : String) : Json → Option Json
  | .object ms => (ms.find? fun m => m.1 == name).map Prod.snd
  | .array xs => ((names.zip xs).find? fun m => m.1 == name).map Prod.snd
  | _ => none

namespace Reading

section
variable {α β : Type}

theorem seq_eq_ok {f : Reading (α → β)} {x : Reading α} {b : β} :
    f <*> x = .ok b ↔ ∃ g a, f = .ok g ∧ x = .ok a ∧ g a = b := by
  change app f x = .ok b ↔ _
  constructor
  · intro h
    cases f with
    | error e => cases x <;> cases h
    | ok g =>
      cases x with
      | error e => cases h
      | ok a => exact ⟨g, a, rfl, rfl, Except.ok.inj h⟩
  · rintro ⟨g, a, rfl, rfl, rfl⟩
    rfl

theorem map_eq_ok {g : α → β} {x : Reading α} {b : β} :
    g <$> x = .ok b ↔ ∃ a, x = .ok a ∧ g a = b := by
  change (pure g <*> x) = .ok b ↔ _
  rw [seq_eq_ok]
  constructor
  · rintro ⟨g, a, ⟨⟩, read, rfl⟩
    exact ⟨a, read, rfl⟩
  · rintro ⟨a, read, rfl⟩
    exact ⟨g, a, rfl, read, rfl⟩

end

end Reading

namespace Record

section
variable {α : Type} {names : List String} {name : String}

theorem required_eq_ok {r : Record} {read : Json → Fit α} {a : α} :
    r.required name read = .ok a ↔ ∃ j, r.value? name = some j ∧ read j = .ok a := by
  unfold required value?
  cases r.slot? name with
  | none => simp
  | some slot =>
    simp only [Option.map_some, Option.some.injEq, exists_eq_left']
    exact mapError_eq_ok

/-- What is kept of the members keeps its name, and the members with a name of interest are kept. -/
theorem value?_filterMap {f : (String × Json) × Nat → Option (String × Nat × Json)}
    (kept : ∀ m place, m.1 = name → f (m, place) = some (m.1, place, m.2))
    (named : ∀ m place slot, f (m, place) = some slot → slot.1 = m.1) (ms : List (String × Json))
    (place size : Nat) :
    value? ⟨(ms.zipIdx place).filterMap f, size⟩ name =
      (ms.find? fun m => m.1 == name).map Prod.snd := by
  induction ms generalizing place with
  | nil => rfl
  | cons m ms ih =>
    rw [List.zipIdx_cons]
    by_cases here : m.1 = name
    · rw [List.filterMap_cons_some (kept m place here), List.find?_cons_of_pos (by simp [here])]
      simp [value?, slot?, here]
    · rw [List.find?_cons_of_neg (by simp [here]), ← ih (place + 1)]
      cases slot : f (m, place) with
      | none => rw [List.filterMap_cons_none slot]
      | some s =>
        have other : s.1 ≠ name := named m place s slot ▸ here
        rw [List.filterMap_cons_some slot]
        simp [value?, slot?, other]

/-- Whatever a record was built from is what stands for its fields. -/
theorem of_read {build : Record → Reading α} {j : Json} {a : α} (h : read names build j = .ok a) :
    ∃ r, build r = .ok a ∧ ∀ name ∈ names, r.value? name = j.field? names name := by
  cases j with
  | object ms =>
    simp only [read, ofMembers] at h
    split at h
    · cases h
    · refine ⟨_, mapError_eq_ok.mp h,
        fun name known => value?_filterMap (fun m place here => ?_) ?_ ms 0 _⟩
      · exact if_pos (List.contains_iff_mem.mpr (here ▸ known))
      · intro m place slot kept
        by_cases listed : names.contains m.1 = true
        · rw [if_pos listed] at kept
          exact congrArg Prod.fst (Option.some.inj kept).symm
        · rw [if_neg listed] at kept
          cases kept
  | array xs =>
    simp only [read, ofItems, bind_eq_ok] at h
    obtain ⟨built, known, done⟩ := h
    split at done
    · cases done
    · cases done
      refine ⟨_, mapError_eq_ok.mp known, fun name _ => ?_⟩
      rw [← List.filterMap_eq_map]
      refine value?_filterMap (fun m place _ => rfl) (fun m place slot kept => ?_) _ 0 _
      exact congrArg Prod.fst (Option.some.inj kept).symm
  | _ => cases h

end

end Record

end LedgerGateway.Json
