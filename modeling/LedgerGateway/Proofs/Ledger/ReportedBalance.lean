import LedgerGateway.Ledger.Fetch
import LedgerGateway.Proofs.Node
import Mathlib.Logic.Relation

/-!
# The block that a balance is reported with

A balance takes three questions, and the chain may go on between them. The account is asked for
first, so what is reported with a block was never held later than in the state with that block as
its tip. If no block came in between, it is what was held in that state; otherwise it need not be
(`AccountBalance.fetch_reports`).

A step of the chain is one more block (`ChainState.Produces`). It leaves the blocks below as they
are, and so does any number of steps (`ChainState.Advances`); a node may give its answers at
different moments of such a run (`ChainState.Follows`).
-/

namespace LedgerGateway

/-- A chain at one moment: its blocks, and what accounts hold after the last one. -/
structure ChainState where
  tip : RawBlock
  earlier : List RawBlock
  account : Address → AccountState
  available : Nat
  below : ∀ b ∈ earlier, b.height < tip.height

namespace ChainState

def identifier (s : ChainState) : BlockIdentifier := ⟨s.tip.height, s.tip.hash⟩

def block? (s : ChainState) (height : UInt64) : Option RawBlock :=
  (s.tip :: s.earlier).find? (·.height == height)

/-- What an address holds. The rewarding pool has what is available in it, and no nonce. -/
def holding (s : ChainState) (address : Address) (ctx : LedgerContext) : AccountState :=
  if address = ctx.pools.rewarding then ⟨s.available, 0⟩ else s.account address

/-- One more block. What accounts hold changes with it. -/
def Produces (s t : ChainState) : Prop := t.earlier = s.tip :: s.earlier

/-- Any number of blocks more. -/
abbrev Advances : ChainState → ChainState → Prop := Relation.ReflTransGen Produces

variable {s t : ChainState} {height : UInt64} {b : RawBlock}

@[simp] theorem block?_tip (s : ChainState) : s.block? s.tip.height = some s.tip := by simp [block?]

namespace Produces

theorem height_lt (h : Produces s t) : s.tip.height < t.tip.height := by
  apply t.below
  rw [h]
  exact List.mem_cons_self

/-- A block stays at its height. -/
theorem block?_eq (h : Produces s t) (found : s.block? height = some b) :
    t.block? height = some b := by
  have listed : b ∈ t.earlier := by
    rw [h]
    exact List.mem_of_find?_eq_some found
  have here : b.height = height := beq_iff_eq.mp (List.find?_some found :)
  have other : t.tip.height ≠ height := by
    rw [← here]
    exact (UInt64.ne_of_lt (t.below b listed)).symm
  rw [block?, h, List.find?_cons_of_neg (by simpa using other)]
  exact found

end Produces

namespace Advances

theorem height_le (h : Advances s t) : s.tip.height ≤ t.tip.height := by
  induction h with
  | refl => exact UInt64.le_refl _
  | tail _ step ih => exact UInt64.le_trans ih (UInt64.le_of_lt step.height_lt)

theorem block?_eq (h : Advances s t) (found : s.block? height = some b) :
    t.block? height = some b := by
  induction h with
  | refl => exact found
  | tail _ step ih => exact step.block?_eq ih

/-- A chain that has not grown has not changed. -/
theorem eq_of_height (h : Advances s t) (same : s.tip.height = t.tip.height) : s = t := by
  cases h with
  | refl => rfl
  | tail before step =>
    have lower := UInt64.lt_of_le_of_lt (height_le before) step.height_lt
    exact absurd same (UInt64.ne_of_lt lower)

end Advances

/-! ### A node that follows a chain -/

/-- Whatever the node answers is so in the state of that moment. The chain may go on between two
answers, and the node may fail to answer. -/
structure Follows (state : Nat → ChainState) (node : Nat → Responder) : Prop where
  grows : ∀ i, Advances (state i) (state (i + 1))
  account : ∀ i address held, node i (.account address) = .ok held →
    held = (state i).account address
  available : ∀ i n, node i .rewardingBalance = .ok n → n = (state i).available
  height : ∀ i n, node i .chainHeight = .ok n → n = (state i).tip.height
  block : ∀ i n b, node i (.rawBlock n) = .ok b → (state i).block? n = some b

/-- The answers of a node that never fails at what a balance takes. -/
def answers (s : ChainState) : Responder
  | .account address => .ok (s.account address)
  | .rewardingBalance => .ok s.available
  | .chainHeight => .ok s.tip.height
  | .rawBlock height => (s.block? height).elim (.error (.notFound "block")) .ok
  | _ => .error (.rejected "unknown query")

section
variable {state : Nat → ChainState} {node : Nat → Responder}

theorem follows_answers (grows : ∀ i, Advances (state i) (state (i + 1))) :
    Follows state fun i => (state i).answers where
  grows := grows
  account _ _ _ given := (Except.ok.inj given).symm
  available _ _ given := (Except.ok.inj given).symm
  height _ _ given := (Except.ok.inj given).symm
  block i n b given := by
    simp only [answers] at given
    cases found : (state i).block? n with
    | none =>
      rw [found] at given
      cases given
    | some b' =>
      rw [found] at given
      exact congrArg some (Except.ok.inj given)

namespace Follows

theorem advances (h : Follows state node) {i j : Nat} (le : i ≤ j) :
    Advances (state i) (state j) := by
  induction le with
  | refl => exact .refl
  | step _ ih => exact ih.trans (h.grows _)

/-- A run passes through one state for each tip. -/
theorem eq_of_height (h : Follows state node) {i j : Nat}
    (same : (state i).tip.height = (state j).tip.height) : state i = state j := by
  rcases Nat.le_total i j with le | le
  · exact (h.advances le).eq_of_height same
  · exact ((h.advances le).eq_of_height same.symm).symm

theorem identifier_eq_iff (h : Follows state node) {i j : Nat} :
    (state i).identifier = (state j).identifier ↔ state i = state j := by
  constructor
  · intro same
    exact h.eq_of_height (congrArg BlockIdentifier.index same)
  · intro same
    rw [same]

end Follows
end
end ChainState

namespace AccountBalance

open ChainState

/-! ### What is reported -/

/-- What a node says that an address holds. -/
def told (node : Responder) (address : Address) (ctx : LedgerContext) :
    Except NodeError AccountState :=
  if address = ctx.pools.rewarding then (node .rewardingBalance).map (⟨·, 0⟩)
  else node (.account address)

variable {state : Nat → ChainState} {node : Nat → Responder} {moment : Nat} {address : Address}
  {ctx : LedgerContext} {r : AccountBalance}

/-- What an address holds is one question. -/
theorem runFrom_state (node : Nat → Responder) (moment : Nat) (address : Address)
    (ctx : LedgerContext) :
    ∃ q, Talk.runFrom node moment (AccountBalance.state address ctx) =
      ((told (node moment) address ctx).mapError (.account address), [q]) := by
  rw [AccountBalance.state, told]
  split
  · refine ⟨.rewardingBalance, ?_⟩
    change (_, [Query.rewardingBalance] ++ _) = _
    cases node moment .rewardingBalance <;> rfl
  · exact ⟨.account address, rfl⟩

/-- The account is asked for first, then the height, and then the block at that height. -/
theorem fetch_eq_ok : (Talk.runFrom node moment (fetch address ctx)).1 = .ok r ↔ ∃ held height tip,
    told (node moment) address ctx = .ok held ∧ node (moment + 1) .chainHeight = .ok height ∧
      node (moment + 2) (.rawBlock height) = .ok tip ∧
      ⟨⟨tip.height, tip.hash⟩, held.balance, held.pendingNonce⟩ = r := by
  obtain ⟨q, answered⟩ := runFrom_state node moment address ctx
  rw [fetch, Talk.runFrom_bind_eq_ok, answered]
  constructor
  · rintro ⟨held, given, rest⟩
    obtain ⟨height, tall, rest⟩ := Talk.runFrom_query_bind_eq_ok.mp rest
    obtain ⟨tip, found, rest⟩ := Talk.runFrom_query_bind_eq_ok.mp rest
    exact ⟨held, height, tip, Outcome.mapError_eq_ok.mp given, tall, found, Except.ok.inj rest⟩
  · rintro ⟨held, height, tip, given, tall, found, rfl⟩
    refine ⟨held, Outcome.mapError_eq_ok.mpr given, ?_⟩
    refine Talk.runFrom_query_bind_eq_ok.mpr ⟨height, tall, ?_⟩
    exact Talk.runFrom_query_bind_eq_ok.mpr ⟨tip, found, rfl⟩

/-- A node that follows a chain tells what is held in the state of the moment. -/
theorem told_of_follows (follows : Follows state node) {held : AccountState}
    (given : told (node moment) address ctx = .ok held) :
    held = (state moment).holding address ctx := by
  rw [told] at given
  rw [holding]
  split at given
  · rename_i pool
    rw [if_pos pool]
    cases answer : node moment .rewardingBalance with
    | error e =>
      rw [answer] at given
      cases given
    | ok n =>
      rw [answer] at given
      cases given
      rw [follows.available moment n answer]
  · rename_i own
    rw [if_neg own]
    exact follows.account moment address held given

theorem told_answers (s : ChainState) (address : Address) (ctx : LedgerContext) :
    told s.answers address ctx = .ok (s.holding address ctx) := by
  rw [told, holding]
  split <;> rfl

/-- The account is that of the first moment, and the block is the tip of the second one. -/
theorem fetched_of_follows (follows : Follows state node)
    (fetched : (Talk.runFrom node moment (fetch address ctx)).1 = .ok r) :
    ⟨r.balance, r.nonce⟩ = (state moment).holding address ctx ∧
      r.block = (state (moment + 1)).identifier := by
  obtain ⟨held, height, tip, given, tall, found, rfl⟩ := fetch_eq_ok.mp fetched
  refine ⟨told_of_follows follows given, ?_⟩
  -- the block at that height is asked for later, when it may be the tip no longer
  have later := (follows.grows (moment + 1)).block?_eq (block?_tip (state (moment + 1)))
  rw [← follows.height (moment + 1) height tall,
    follows.block (moment + 2) height tip found] at later
  cases later
  rfl

/-- With a node that never fails, a balance is reported. -/
theorem fetched_answers (grows : ∀ i, Advances (state i) (state (i + 1))) (moment : Nat)
    (address : Address) (ctx : LedgerContext) :
    (Talk.runFrom (fun i => (state i).answers) moment (fetch address ctx)).1 =
      .ok ⟨(state (moment + 1)).identifier, ((state moment).holding address ctx).balance,
        ((state moment).holding address ctx).pendingNonce⟩ := by
  have later := (grows (moment + 1)).block?_eq (block?_tip (state (moment + 1)))
  refine fetch_eq_ok.mpr ⟨_, _, _, told_answers _ _ _, rfl, ?_, rfl⟩
  rw [answers, later]
  rfl

/-- What a report tells about a run. The account is that of the moment of the first question. The
state whose tip is the reported block is that of the second question; the chain may have come there
from the first. If it was there already, the account is that of the reported block. -/
structure Reported (state : Nat → ChainState) (moment : Nat) (address : Address)
    (ctx : LedgerContext) (r : AccountBalance) : Prop where
  account : ⟨r.balance, r.nonce⟩ = (state moment).holding address ctx
  block : ∀ i, (state i).identifier = r.block ↔ state i = state (moment + 1)
  later : Advances (state moment) (state (moment + 1))
  current : (state moment).identifier = r.block →
    ∀ i, (state i).identifier = r.block → ⟨r.balance, r.nonce⟩ = (state i).holding address ctx

theorem reported_of_follows (follows : Follows state node)
    (fetched : (Talk.runFrom node moment (fetch address ctx)).1 = .ok r) :
    Reported state moment address ctx r := by
  obtain ⟨account, block⟩ := fetched_of_follows follows fetched
  constructor
  case account => exact account
  case block =>
    intro i
    rw [block]
    exact follows.identifier_eq_iff
  case later => exact follows.grows moment
  case current =>
    intro now i there
    have same : state i = state moment := follows.identifier_eq_iff.mp (there.trans now.symm)
    rw [same]
    exact account

/-- A run in which the chain goes on right after the first question. -/
def overtaken (s t : ChainState) : Nat → ChainState
  | 0 => s
  | _ + 1 => t

theorem overtaken_grows {s t : ChainState} (h : Advances s t) (i : Nat) :
    Advances (overtaken s t i) (overtaken s t (i + 1)) := by
  cases i with
  | zero => exact h
  | succ i => exact .refl

/-- A balance is reported with the tip that the chain has one question later. So the account may be
older than the block, but never newer, and it belongs to the block if the chain stood still. However
far the chain gets from one question to the next, there is a run in which the account of the first
state is reported with the block of the last. -/
theorem fetch_reports (address : Address) (ctx : LedgerContext) :
    (∀ state node moment r, Follows state node →
      (Talk.runFrom node moment (fetch address ctx)).1 = .ok r →
      Reported state moment address ctx r) ∧
    ∀ s t, Advances s t → ∃ state node, Follows state node ∧ state 0 = s ∧ state 1 = t ∧
      (Talk.runFrom node 0 (fetch address ctx)).1 =
        .ok ⟨t.identifier, (s.holding address ctx).balance,
          (s.holding address ctx).pendingNonce⟩ := by
  constructor
  · intro state node moment r follows fetched
    exact reported_of_follows follows fetched
  · intro s t h
    have grows := overtaken_grows h
    exact ⟨overtaken s t, _, follows_answers grows, rfl, rfl, fetched_answers grows 0 address ctx⟩

end AccountBalance

namespace Specimen

open ChainState AccountBalance

def lowerBlock : RawBlock :=
  { height := 41, hash := "29", parentHash := "28", timestamp := 1700000410000, actions := [],
    receipts := [] }

def upperBlock : RawBlock :=
  { height := 42, hash := "2a", parentHash := "29", timestamp := 1700000420000, actions := [],
    receipts := [] }

def lowerState : ChainState where
  tip := lowerBlock
  earlier := []
  account _ := ⟨1000, 6⟩
  available := 700
  below _ h := absurd h List.not_mem_nil

def upperState : ChainState where
  tip := upperBlock
  earlier := [lowerBlock]
  account _ := ⟨950, 7⟩
  available := 710
  below := List.forall_mem_singleton.mpr (by decide)

def saver : Address := Octets.ofNat 20 0x0202020202020202020202020202020202020202

def pool : Address := ({} : Pools).rewarding

theorem upper_advances : Advances lowerState upperState := .single rfl

theorem holding_saver (s : ChainState) : s.holding saver {} = s.account saver :=
  if_neg (by decide +kernel)

theorem holding_pool (s : ChainState) : s.holding pool {} = ⟨s.available, 0⟩ := if_pos rfl

/-- The upper block comes right after the first question. -/
def crossing : Nat → ChainState := overtaken lowerState upperState

def crossingNode (i : Nat) : Responder := (crossing i).answers

theorem crossingNode_follows : Follows crossing crossingNode :=
  follows_answers (overtaken_grows upper_advances)

theorem crossing_fetched (moment : Nat) (address : Address) :
    (Talk.runFrom crossingNode moment (fetch address)).1 =
    .ok ⟨(crossing (moment + 1)).identifier, ((crossing moment).holding address {}).balance,
      ((crossing moment).holding address {}).pendingNonce⟩ :=
  fetched_answers (overtaken_grows upper_advances) moment address {}

/-- After the crossing the chain stands still, and what is held in the upper block is
reported with it. -/
theorem upper_reported : Follows crossing crossingNode ∧
    (Talk.runFrom crossingNode 1 (fetch saver)).1 = .ok ⟨⟨42, "2a"⟩, 950, 7⟩ ∧
    Reported crossing 1 saver {} ⟨⟨42, "2a"⟩, 950, 7⟩ ∧ Advances lowerState upperState ∧
    ∃ state node, Follows state node ∧ state 0 = lowerState ∧ state 1 = upperState ∧
      (Talk.runFrom node 0 (fetch pool)).1 = .ok ⟨⟨42, "2a"⟩, 700, 0⟩ := by
  have fetched : (Talk.runFrom crossingNode 1 (fetch saver)).1 = .ok ⟨⟨42, "2a"⟩, 950, 7⟩ := by
    rw [crossing_fetched, holding_saver]
    rfl
  have late := (fetch_reports pool {}).2 lowerState upperState upper_advances
  rw [holding_pool] at late
  have reported := (fetch_reports saver {}).1 crossing crossingNode 1 _ crossingNode_follows fetched
  exact ⟨crossingNode_follows, fetched, reported, upper_advances, late⟩

/-- What was held before the upper block is reported with it, of an account as of the pool. -/
theorem lower_account_reported : Follows crossing crossingNode ∧
    (Talk.runFrom crossingNode 0 (fetch saver)).1 = .ok ⟨⟨42, "2a"⟩, 1000, 6⟩ ∧
    (Talk.runFrom crossingNode 0 (fetch pool)).1 = .ok ⟨⟨42, "2a"⟩, 700, 0⟩ ∧
    (crossing 1).identifier = ⟨42, "2a"⟩ ∧
    ∀ i, (crossing i).identifier = ⟨42, "2a"⟩ →
      ((crossing i).holding saver {}).balance = 950 ∧
        ((crossing i).holding pool {}).balance = 710 := by
  refine ⟨crossingNode_follows, ?_, ?_, rfl, fun i there => ?_⟩
  · rw [crossing_fetched, holding_saver]
    rfl
  · rw [crossing_fetched, holding_pool]
    rfl
  · have upper : crossing i = crossing 1 := crossingNode_follows.identifier_eq_iff.mp there
    rw [upper, holding_saver, holding_pool]
    exact ⟨rfl, rfl⟩

end Specimen
end LedgerGateway
