import LedgerGateway.Proofs.Node

/-!
# Conversations that a failure ends

Nothing is asked after the node has failed to answer, and how the conversation ends is then settled
by that failure alone: what was answered before it is lost. `Breaks` says so of a conversation step
by step, whatever is answered, and `Breaks.of_runFrom` of every run with a node, which may change
between queries. What has been asked before counts only by its number, since a conversation may ask
the same query twice and mean different things by it.
-/

namespace LedgerGateway.Talk

variable {α β ε δ : Type}

/-- A query that fails is the last one. With so many queries made before it, the end is one that the
failure allows. -/
def Breaks (allowed : Nat → Query → NodeError → α → Prop) : (made : Nat) → Talk α → Prop
  | _, done _ => True
  | made, ask q next =>
    (∀ failure, ∃ a, next (.error failure) = done a ∧ allowed made q failure a) ∧
      ∀ answer, Breaks allowed (made + 1) (next (.ok answer))

namespace Breaks

variable {allowed : Nat → Query → NodeError → α → Prop}
  {later : Nat → Query → NodeError → β → Prop} {made : Nat}

theorem andThen {t : Talk α} {f : α → Talk β} (h : Breaks allowed made t)
    (ends : ∀ i q failure a, allowed i q failure a → ∃ b, f a = done b ∧ later i q failure b)
    (rest : ∀ i a, Breaks later i (f a)) : Breaks later made (t.andThen f) := by
  induction t generalizing made with
  | done a => exact rest made a
  | ask q next ih =>
    obtain ⟨stops, goes⟩ := h
    refine ⟨fun failure => ?_, fun answer => ih (.ok answer) (goes answer)⟩
    obtain ⟨a, stopped, ha⟩ := stops failure
    obtain ⟨b, ended, hb⟩ := ends made q failure a ha
    have steps : (next (.error failure)).andThen f = done b := by rw [stopped, Talk.andThen, ended]
    exact ⟨b, steps, hb⟩

/-- A failed query of a run is its last one, and the run ends as the failure allows. -/
theorem of_runFrom {t : Talk α} (h : Breaks allowed made t) {node : Nat → Responder}
    {moment k : Nat} {q : Query} {failure : NodeError}
    (asked : (t.runFrom node moment).2[k]? = some q)
    (failed : node (moment + k) q = .error failure) :
    (t.runFrom node moment).2.length = k + 1 ∧
      allowed (made + k) q failure (t.runFrom node moment).1 := by
  induction t generalizing made moment k with
  | done a => cases asked
  | ask first next ih =>
    obtain ⟨stops, goes⟩ := h
    simp only [runFrom] at asked ⊢
    cases k with
    | zero =>
      obtain rfl : first = q := Option.some.inj asked
      obtain ⟨a, stopped, ha⟩ := stops failure
      have here : node moment first = .error failure := failed
      rw [here, stopped]
      exact ⟨rfl, ha⟩
    | succ k =>
      cases given : node moment first with
      | error failure' =>
        obtain ⟨a, stopped, -⟩ := stops failure'
        rw [given, stopped] at asked
        cases asked
      | ok answer =>
        rw [given] at asked
        have later : moment + 1 + k = moment + (k + 1) := by omega
        obtain ⟨last, ha⟩ := ih (.ok answer) (goes answer) asked (later ▸ failed)
        have count : made + 1 + k = made + (k + 1) := by omega
        exact ⟨congrArg (· + 1) last, count ▸ ha⟩

end Breaks

/-- A query that fails is the last one, and the conversation then fails with an error that is
blamed on it. -/
def FailsWith (blamed : Nat → Query → NodeError → ε → Prop) (made : Nat) (t : ExceptT ε Talk α) :
    Prop :=
  Breaks (fun i q failure (r : Except ε α) => ∃ e, r = .error e ∧ blamed i q failure e) made t

namespace FailsWith

variable {blamed : Nat → Query → NodeError → ε → Prop} {made : Nat}

theorem bind {t : ExceptT ε Talk α} {f : α → ExceptT ε Talk β} (h : FailsWith blamed made t)
    (rest : ∀ i a, FailsWith blamed i (f a)) : FailsWith blamed made (t >>= f) := by
  apply Breaks.andThen h
  · rintro i q failure r ⟨e, rfl, he⟩
    exact ⟨.error e, rfl, e, rfl, he⟩
  · intro i r
    cases r with
    | ok a => exact rest i a
    | error e => exact trivial

theorem known (r : Except ε α) : FailsWith blamed made (ofExcept r : ExceptT ε Talk α) := trivial

/-- What is known costs no query. -/
theorem known_bind {r : Except ε α} {f : α → ExceptT ε Talk β}
    (rest : ∀ a, FailsWith blamed made (f a)) :
    FailsWith blamed made ((ofExcept r : ExceptT ε Talk α) >>= f) := by
  cases r with
  | ok a => exact rest a
  | error e => exact trivial

theorem pure (a : α) : FailsWith blamed made (Pure.pure a : ExceptT ε Talk α) := trivial

theorem throw (e : ε) : FailsWith blamed made (MonadExcept.throw e : ExceptT ε Talk α) := trivial

theorem query {q : Query} {onFailure : NodeError → ε}
    (h : ∀ failure, blamed made q failure (onFailure failure)) :
    FailsWith blamed made (Talk.query q onFailure) :=
  ⟨fun failure => ⟨.error (onFailure failure), rfl, onFailure failure, rfl, h failure⟩,
    fun _ => trivial⟩

/-- What comes after one query is asked with one more query made. -/
theorem query_bind {q : Query} {onFailure : NodeError → ε} {f : q.Answer → ExceptT ε Talk α}
    (h : ∀ failure, blamed made q failure (onFailure failure))
    (rest : ∀ answer, FailsWith blamed (made + 1) (f answer)) :
    FailsWith blamed made (Talk.query q onFailure >>= f) :=
  ⟨fun failure => ⟨.error (onFailure failure), rfl, onFailure failure, rfl, h failure⟩, rest⟩

theorem adapt {t : ExceptT ε Talk α} {tell : ε → δ} {told : Nat → Query → NodeError → δ → Prop}
    (h : FailsWith (fun i q failure e => told i q failure (tell e)) made t) :
    FailsWith told made (t.adapt tell) := by
  apply Breaks.andThen h
  · rintro i q failure r ⟨e, rfl, he⟩
    exact ⟨.error (tell e), rfl, tell e, rfl, he⟩
  · intro i r
    exact trivial

end FailsWith

end LedgerGateway.Talk
