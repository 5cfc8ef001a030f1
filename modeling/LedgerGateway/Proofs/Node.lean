import LedgerGateway.Node
import LedgerGateway.Proofs.Outcome

/-!
# Conversations step by step

With a node that does not change, what a conversation ends with follows its steps, with the node's
answer in the place of each query (`result_bind`). The queries are those of the steps one after the
other, and none comes after a step that failed (`queries_bind`). How a conversation may end with any
node, also with one that changes between queries, is said by `Ends`; what one step can fail with,
the whole can (`FailsOnly`). A conversation that works through a list of queries and ends with the
first answer it objects to is described by that list and the objection (`Asks`).
-/

namespace LedgerGateway.Talk

variable {α β ε : Type} (node : Responder)

theorem runFrom_unchanging (t : Talk α) (first moment : Nat) :
    t.runFrom (fun _ => node) first = t.runFrom (fun _ => node) moment := by
  induction t generalizing first moment with
  | done a => rfl
  | ask q next ih => rw [runFrom, runFrom, ih _ (first + 1) (moment + 1)]

/-- Two nodes that give the same answers to what is asked hold the same conversation. -/
theorem runFrom_congr {before after : Nat → Responder} {first moment : Nat} (t : Talk α)
    (h : ∀ i q, (t.runFrom before first).2[i]? = some q →
      after (moment + i) q = before (first + i) q) :
    t.runFrom after moment = t.runFrom before first := by
  induction t generalizing first moment with
  | done a => rfl
  | ask q next ih =>
    have here : after moment q = before first q := h 0 q rfl
    rw [runFrom, runFrom, here]
    rw [ih (before first q) fun i q' asked => ?_]
    have there := h (i + 1) q' asked
    rwa [← Nat.add_assoc, Nat.add_right_comm, ← Nat.add_assoc, Nat.add_right_comm first] at there

/-- The second part is held when the queries of the first one have been asked. -/
theorem runFrom_andThen (node : Nat → Responder) (moment : Nat) (t : Talk α) (f : α → Talk β) :
    (t.andThen f).runFrom node moment =
      (((f (t.runFrom node moment).1).runFrom node (moment + (t.runFrom node moment).2.length)).1,
        (t.runFrom node moment).2 ++
          ((f (t.runFrom node moment).1).runFrom node
            (moment + (t.runFrom node moment).2.length)).2) := by
  induction t generalizing moment with
  | done a => rfl
  | ask q next ih =>
    simp only [andThen, runFrom, ih, List.length_cons, List.cons_append]
    rw [Nat.add_right_comm, Nat.add_assoc]

/-- A conversation of two parts succeeds when both do. The second one begins after the queries
of the first. -/
theorem runFrom_bind_eq_ok {node : Nat → Responder} {moment : Nat} {t : ExceptT ε Talk α}
    {f : α → ExceptT ε Talk β} {b : β} :
    (Talk.runFrom node moment (t >>= f : ExceptT ε Talk β)).1 = .ok b ↔
      ∃ a, (Talk.runFrom node moment t).1 = .ok a ∧
        (Talk.runFrom node (moment + (Talk.runFrom node moment t).2.length) (f a)).1 = .ok b := by
  have parts := congrArg Prod.fst (runFrom_andThen node moment t (ExceptT.bindCont f))
  refine (Eq.congr_left parts).trans ?_
  cases (Talk.runFrom node moment t).1 with
  | ok a =>
    constructor
    · intro rest
      exact ⟨a, rfl, rest⟩
    · rintro ⟨_, same, rest⟩
      cases same
      exact rest
  | error e =>
    constructor
    · intro failed
      cases failed
    · rintro ⟨_, failed, -⟩
      cases failed

theorem runFrom_query_bind_eq_ok {node : Nat → Responder} {moment : Nat} {q : Query}
    {onFailure : NodeError → ε} {f : q.Answer → ExceptT ε Talk β} {b : β} :
    (Talk.runFrom node moment (query q onFailure >>= f : ExceptT ε Talk β)).1 = .ok b ↔
      ∃ a, node moment q = .ok a ∧ (Talk.runFrom node (moment + 1) (f a)).1 = .ok b := by
  rw [runFrom_bind_eq_ok]
  exact exists_congr fun a => and_congr_left' Outcome.mapError_eq_ok

theorem run_ask (q : Query) (next : Except NodeError q.Answer → Talk α) :
    (ask q next).run node = (((next (node q)).run node).1, q :: ((next (node q)).run node).2) := by
  rw [run, run, runFrom, runFrom_unchanging node _ _ 0]

theorem run_andThen (t : Talk α) (f : α → Talk β) :
    (t.andThen f).run node =
      (((f (t.run node).1).run node).1, (t.run node).2 ++ ((f (t.run node).1).run node).2) := by
  induction t with
  | done a => rfl
  | ask q next ih => rw [andThen, run_ask, run_ask, ih, List.cons_append]

/-- A step that is known to succeed asks nothing and hands its value on. -/
theorem ofExcept_ok_bind (a : α) (f : α → ExceptT ε Talk β) :
    ((ofExcept (.ok a) : ExceptT ε Talk α) >>= f) = f a := rfl

/-- A step that is known to fail ends the conversation. -/
theorem ofExcept_error_bind (e : ε) (f : α → ExceptT ε Talk β) :
    ((ofExcept (.error e) : ExceptT ε Talk α) >>= f) = ofExcept (.error e) := rfl

/-- What is made of a known value is known as well. -/
theorem ofExcept_bind_pure (r : Except ε α) (f : α → β) :
    ((ofExcept r : ExceptT ε Talk α) >>= fun a => pure (f a)) =
      ofExcept (r >>= fun a => .ok (f a)) := by
  cases r <;> rfl

/-- What a conversation ends with. -/
def result (t : ExceptT ε Talk α) : Except ε α := (Talk.run node t).1

/-- What a conversation asks, in order. -/
def queries (t : ExceptT ε Talk α) : List Query := (Talk.run node t).2

section
variable {node}

theorem result_bind (t : ExceptT ε Talk α) (f : α → ExceptT ε Talk β) :
    result node (t >>= f) = result node t >>= fun a => result node (f a) := by
  have steps : result node (t >>= f) = (Talk.run node (ExceptT.bindCont f (result node t))).1 :=
    (congrArg Prod.fst (run_andThen node t (ExceptT.bindCont f)) :)
  rw [steps]
  cases result node t <;> rfl

theorem queries_bind (t : ExceptT ε Talk α) (f : α → ExceptT ε Talk β) :
    queries node (t >>= f) =
      queries node t ++ match result node t with
        | .ok a => queries node (f a)
        | .error _ => [] := by
  have steps : queries node (t >>= f) =
      queries node t ++ (Talk.run node (ExceptT.bindCont f (result node t))).2 :=
    (congrArg Prod.snd (run_andThen node t (ExceptT.bindCont f)) :)
  rw [steps]
  cases result node t <;> rfl

/-- A step that succeeded hands its value to the rest. -/
theorem result_bind_of_ok {t : ExceptT ε Talk α} {a : α} (h : result node t = .ok a)
    (f : α → ExceptT ε Talk β) : result node (t >>= f) = result node (f a) := by
  rw [result_bind, h]
  rfl

theorem result_query (q : Query) (onFailure : NodeError → ε) :
    result node (query q onFailure) = (node q).mapError onFailure := rfl

theorem result_query_of_ok {q : Query} {answer : q.Answer} (h : node q = .ok answer)
    (onFailure : NodeError → ε) : result node (query q onFailure) = .ok answer := by
  rw [result_query, h]
  rfl

theorem result_pure (a : α) : result node (pure a : ExceptT ε Talk α) = .ok a := rfl

theorem result_throw (e : ε) : result node (throw e : ExceptT ε Talk α) = .error e := rfl

end

/-- What went wrong. -/
def fault? : Except ε α → Option ε
  | .error e => some e
  | .ok _ => none

/-- The queries up to the first one whose answer is objected to, that one included. -/
def upTo (stop : Query → Option ε) : List Query → List Query
  | [] => []
  | q :: later => q :: if (stop q).isSome then [] else upTo stop later

section
variable {node} {stop : Query → Option ε} {part more : List Query}

theorem upTo_append :
    upTo stop (part ++ more) =
      upTo stop part ++ if (part.findSome? stop).isSome then [] else upTo stop more := by
  induction part with
  | nil => rfl
  | cons q part ih =>
    cases objected : stop q with
    | some e => simp [upTo, objected]
    | none => simp [upTo, objected, ih]

theorem upTo_begins : upTo stop part <+: part := by
  induction part with
  | nil => exact List.prefix_rfl
  | cons q part ih =>
    rw [upTo]
    split
    · exact ⟨part, rfl⟩
    · exact List.cons_prefix_cons.mpr ⟨rfl, ih⟩

/-- The conversation asks these queries one after the other. It fails with the first objection to an
answer; without one, all are asked and how it ends has the property. -/
structure Asks (node : Responder) (stop : Query → Option ε) (part : List Query)
    (P : Except ε α → Prop) (t : ExceptT ε Talk α) : Prop where
  asked : queries node t = upTo stop part
  stopped : ∀ e, part.findSome? stop = some e → result node t = .error e
  passed : part.findSome? stop = none → P (result node t)

/-- What is known is not asked for. -/
theorem Asks.known {P : Except ε α → Prop} {r : Except ε α} (h : P r) :
    Asks node stop [] P (ofExcept r) where
  asked := rfl
  stopped := nofun
  passed _ := h

/-- One query, whose answer is worked on; what comes of it is the value or the objection. -/
theorem Asks.one {q : Query} {t : ExceptT ε Talk α} {r : Except ε α} (asked : queries node t = [q])
    (ends : result node t = r) (objected : stop q = fault? r) :
    Asks node stop [q] (fun r' => ∃ a, r' = .ok a ∧ r.toOption = some a) t := by
  refine ⟨?_, fun e fault => ?_, fun none => ?_⟩
  · rw [asked, upTo, upTo, ite_self]
  · rw [List.findSome?_singleton, objected] at fault
    cases r with
    | error e' =>
      cases fault
      exact ends
    | ok a => cases fault
  · rw [List.findSome?_singleton, objected] at none
    cases r with
    | error e => cases none
    | ok a => exact ⟨a, ends, rfl⟩

/-- One query whose answer is worked on without asking more. -/
theorem Asks.answered {q : Query} {onFailure : NodeError → ε} {f : q.Answer → ExceptT ε Talk α}
    {g : q.Answer → Except ε α} (known : ∀ answer, f answer = ofExcept (g answer))
    (objected : stop q = fault? ((node q).mapError onFailure >>= g)) :
    Asks node stop [q] (fun r => ∃ a,
      r = .ok a ∧ ((node q).mapError onFailure >>= g).toOption = some a)
      (query q onFailure >>= f) := by
  rw [show f = fun answer => ofExcept (g answer) from funext known]
  refine .one ?_ ?_ objected
  · rw [queries_bind, result_query]
    cases node q <;> rfl
  · rw [result_bind, result_query]
    rfl

theorem Asks.bind {P : α → Prop} {R : Except ε β → Prop} {t : ExceptT ε Talk α}
    {f : α → ExceptT ε Talk β} (first : Asks node stop part (fun r => ∃ a, r = .ok a ∧ P a) t)
    (rest : ∀ a, P a → Asks node stop more R (f a)) :
    Asks node stop (part ++ more) R (t >>= f) := by
  cases objection : part.findSome? stop with
  | some e =>
    have failed := first.stopped e objection
    have whole : (part ++ more).findSome? stop = some e := by
      rw [List.findSome?_append, objection, Option.some_or]
    have ends : result node (t >>= f) = .error e := by
      rw [result_bind, failed]
      rfl
    refine ⟨?_, fun e' again => ?_, fun none => ?_⟩
    · rw [queries_bind, failed, upTo_append, objection, first.asked]
      rfl
    · cases whole.symm.trans again
      exact ends
    · cases whole.symm.trans none
  | none =>
    obtain ⟨a, given, ha⟩ := first.passed objection
    have later := rest a ha
    have whole : (part ++ more).findSome? stop = more.findSome? stop := by
      rw [List.findSome?_append, objection, Option.none_or]
    refine ⟨?_, fun e again => ?_, fun none => ?_⟩
    · rw [queries_bind, given, upTo_append, objection, first.asked, ← later.asked]
      rfl
    · rw [result_bind_of_ok given]
      exact later.stopped e (whole.symm.trans again)
    · rw [result_bind_of_ok given]
      exact later.passed (whole.symm.trans none)

end

/-- Whatever is answered, what the conversation ends with has the property. -/
def Ends (P : α → Prop) : Talk α → Prop
  | done a => P a
  | ask _ next => ∀ answer, Ends P (next answer)

theorem Ends.of_forall {P : α → Prop} (h : ∀ a, P a) (t : Talk α) : Ends P t := by
  induction t with
  | done a => exact h a
  | ask q next ih => exact ih

theorem Ends.andThen {P : α → Prop} {R : β → Prop} {t : Talk α} {f : α → Talk β} (h : Ends P t)
    (rest : ∀ a, P a → Ends R (f a)) : Ends R (t.andThen f) := by
  induction t with
  | done a => exact rest a h
  | ask q next ih => exact fun answer => ih answer (h answer)

/-- A run with any node, which may change between queries, is one of the ways to answer. -/
theorem Ends.of_runFrom {P : α → Prop} {t : Talk α} (h : Ends P t) (node : Nat → Responder)
    (moment : Nat) : P (t.runFrom node moment).1 := by
  induction t generalizing moment with
  | done a => exact h
  | ask q next ih => exact ih (node moment q) (h (node moment q)) (moment + 1)

/-- Whatever is answered, the conversation succeeds or fails in one of these ways. -/
def FailsOnly (E : ε → Prop) (t : ExceptT ε Talk α) : Prop :=
  Ends (fun r : Except ε α => ∀ e, r = .error e → E e) t

namespace FailsOnly

variable {E : ε → Prop}

theorem bind {t : ExceptT ε Talk α} {f : α → ExceptT ε Talk β} (h : FailsOnly E t)
    (rest : ∀ a, FailsOnly E (f a)) : FailsOnly E (t >>= f) := by
  refine Ends.andThen h fun r fails => ?_
  cases r with
  | ok a => exact rest a
  | error e =>
    intro e' same
    exact fails e' (congrArg Except.error (Except.error.inj same))

theorem pure (a : α) : FailsOnly E (Pure.pure a : ExceptT ε Talk α) := fun _ => nofun

theorem query {onFailure : NodeError → ε} (q : Query) (h : ∀ e, E (onFailure e)) :
    FailsOnly E (Talk.query q onFailure) := by
  intro answer e failed
  cases answer with
  | ok a => cases failed
  | error e' =>
    cases failed
    exact h e'

theorem ofExcept {r : Except ε α} (h : ∀ e, r = .error e → E e) : FailsOnly E (Talk.ofExcept r) := h

end FailsOnly

end LedgerGateway.Talk
