import Mathlib.Data.List.Forall2

/-!
# Steps that may fail

A reader is a sequence of steps, each of which may fail; a list is read item by item. These lemmas
say when such a sequence succeeds and with what. They speak mostly of success: which of several
faults is reported depends on the order of the steps, success does not.
-/

namespace LedgerGateway.Outcome

section
variable {α β γ ε δ : Type}

theorem bind_eq_ok {x : Except ε α} {f : α → Except ε β} {b : β} :
    x >>= f = .ok b ↔ ∃ a, x = .ok a ∧ f a = .ok b := by
  cases x <;> simp [bind, Except.bind]

theorem pure_eq_ok {a b : α} : (pure a : Except ε α) = .ok b ↔ a = b := by
  simp [pure, Except.pure]

theorem throw_ne_ok {e : ε} {a : α} : (throw e : Except ε α) ≠ .ok a := by
  simp [throw, throwThe, MonadExceptOf.throw]

/-- A last step that cannot fail does not matter to success. -/
theorem bind_pure_succeeds {x : Except ε α} {f : α → β} :
    (∃ b, (x >>= fun a => pure (f a)) = .ok b) ↔ ∃ a, x = .ok a := by
  cases x <;> simp [bind, Except.bind, pure, Except.pure]

theorem mapError_eq_ok {x : Except ε α} {g : ε → δ} {a : α} : x.mapError g = .ok a ↔ x = .ok a := by
  cases x <;> simp [Except.mapError]

/-- A sequence fails with the first fault. -/
theorem bind_eq_error {x : Except ε α} {f : α → Except ε β} {e : ε} :
    x >>= f = .error e ↔ x = .error e ∨ ∃ a, x = .ok a ∧ f a = .error e := by
  cases x <;> simp [bind, Except.bind]

theorem mapError_eq_error {x : Except ε α} {g : ε → δ} {d : δ} :
    x.mapError g = .error d ↔ ∃ e, x = .error e ∧ g e = d := by
  cases x <;> simp [Except.mapError]

/-- What succeeds is known by any part of what it gives. -/
theorem exists_ok_of_toOption {x : Except ε α} {f : α → β} {b : β} (h : x.toOption.map f = some b) :
    ∃ a, x = .ok a ∧ f a = b := by
  cases x with
  | error e => cases h
  | ok a => exact ⟨a, rfl, Option.some.inj h⟩

/-- A list is read when every item is, and the results stand in the order of the items. -/
theorem mapM_eq_ok {f : α → Except ε β} {xs : List α} {ys : List β} :
    xs.mapM f = .ok ys ↔ List.Forall₂ (fun x y => f x = .ok y) xs ys := by
  induction xs generalizing ys with
  | nil => cases ys <;> simp [pure_eq_ok]
  | cons x xs ih =>
    simp only [List.mapM_cons, bind_eq_ok, pure_eq_ok]
    constructor
    · rintro ⟨y, hy, rest, hrest, rfl⟩
      exact .cons hy (ih.mp hrest)
    · intro h
      cases h with
      | cons hy hrest => exact ⟨_, hy, _, ih.mpr hrest, rfl⟩

/-- What is found in the results was read from an item. -/
theorem mem_of_mapM_eq_ok {f : α → Except ε β} {xs : List α} {ys : List β} (h : xs.mapM f = .ok ys)
    {y : β} (hy : y ∈ ys) : ∃ x ∈ xs, f x = .ok y := by
  induction mapM_eq_ok.mp h with
  | nil => cases hy
  | cons head tail ih =>
    obtain rfl | later := List.mem_cons.mp hy
    · exact ⟨_, List.mem_cons_self, head⟩
    · obtain ⟨x, hx, read⟩ := ih (mapM_eq_ok.mpr tail) later
      exact ⟨x, List.mem_cons_of_mem _ hx, read⟩

/-- A list is not read because one of its items is not. -/
theorem mapM_eq_error {f : α → Except ε β} {xs : List α} {e : ε} (h : xs.mapM f = .error e) :
    ∃ x ∈ xs, f x = .error e := by
  induction xs with
  | nil => cases h
  | cons x xs ih =>
    simp only [List.mapM_cons, bind_eq_error] at h
    obtain here | ⟨y, -, later | ⟨ys, -, done⟩⟩ := h
    · exact ⟨x, List.mem_cons_self, here⟩
    · obtain ⟨x', hx', there⟩ := ih later
      exact ⟨x', List.mem_cons_of_mem x hx', there⟩
    · cases done

/-- Lists whose items are read alike are read alike. -/
theorem mapM_congr_forall₂ {f : α → Except ε γ} {g : β → Except ε γ} {xs : List α} {ys : List β}
    (h : List.Forall₂ (fun x y => f x = g y) xs ys) : xs.mapM f = ys.mapM g := by
  induction h with
  | nil => rfl
  | cons head _ ih => rw [List.mapM_cons, List.mapM_cons, head, ih]

/-- Reading a list twice is reading each item twice. -/
theorem mapM_mapM_eq_ok {f : α → Except ε β} {g : β → Except ε γ} {xs : List α} {zs : List γ} :
    (∃ ys, xs.mapM f = .ok ys ∧ ys.mapM g = .ok zs) ↔ (xs.mapM fun x => f x >>= g) = .ok zs := by
  induction xs generalizing zs with
  | nil => simp [pure_eq_ok]
  | cons x xs ih =>
    simp only [List.mapM_cons, bind_eq_ok, pure_eq_ok, ← ih]
    constructor
    · rintro ⟨_, ⟨y, hy, ys, hys, rfl⟩, h⟩
      simp only [List.mapM_cons, bind_eq_ok, pure_eq_ok] at h
      obtain ⟨z, hz, zs, hzs, rfl⟩ := h
      exact ⟨z, ⟨y, hy, hz⟩, zs, ⟨ys, hys, hzs⟩, rfl⟩
    · rintro ⟨z, ⟨y, hy, hz⟩, zs, ⟨ys, hys, hzs⟩, rfl⟩
      refine ⟨y :: ys, ⟨y, hy, ys, hys, rfl⟩, ?_⟩
      simp only [List.mapM_cons, bind_eq_ok, pure_eq_ok]
      exact ⟨z, hz, zs, hzs, rfl⟩

/-- Whether a list is read does not depend on the order of its items. -/
theorem mapM_succeeds {f : α → Except ε β} {xs : List α} :
    (∃ ys, xs.mapM f = .ok ys) ↔ ∀ x ∈ xs, ∃ y, f x = .ok y := by
  induction xs with
  | nil => simp [pure_eq_ok]
  | cons x xs ih =>
    simp only [List.mapM_cons, bind_eq_ok, pure_eq_ok, List.forall_mem_cons, ← ih]
    constructor
    · rintro ⟨_, y, hy, rest, hrest, rfl⟩
      exact ⟨⟨y, hy⟩, rest, hrest⟩
    · rintro ⟨⟨y, hy⟩, rest, hrest⟩
      exact ⟨y :: rest, y, hy, rest, hrest, rfl⟩

/-- Two lists are related item by item by what a third one knows of both, exactly when they are two
views of one list of such things. -/
theorem forall₂_views {f : γ → α} {g : γ → β} {xs : List α} {ys : List β} :
    List.Forall₂ (fun x y => ∃ c, f c = x ∧ g c = y) xs ys ↔
      ∃ cs : List γ, cs.map f = xs ∧ cs.map g = ys := by
  constructor
  · intro h
    induction h with
    | nil => exact ⟨[], rfl, rfl⟩
    | cons hxy _ ih =>
      obtain ⟨c, rfl, rfl⟩ := hxy
      obtain ⟨cs, rfl, rfl⟩ := ih
      exact ⟨c :: cs, rfl, rfl⟩
  · rintro ⟨cs, rfl, rfl⟩
    induction cs with
    | nil => exact .nil
    | cons c cs ih => exact .cons ⟨c, rfl, rfl⟩ ih

end

end LedgerGateway.Outcome
