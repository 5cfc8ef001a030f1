import LedgerGateway.Action.Envelope
import LedgerGateway.Ledger.RawBlock
import LedgerGateway.Node.Error

/-! Conversations with a node. A conversation asks one query after the other, and what it asks next
may depend on the answers so far; nothing else is known of the node, so a statement about a
conversation holds for every node. -/

namespace LedgerGateway

/-- What the node knows of an account. -/
structure AccountState where
  balance : Nat
  pendingNonce : UInt64
  deriving DecidableEq

inductive Query where
  | account (address : Address)
  | rewardingBalance
  | chainHeight
  | rawBlock (height : UInt64)
  | transferLogs (height : UInt64)
  | transferLogOf (hash : ActionHash)
  | estimateGas (draft : Action)
  | gasPrice
  | submit (action : Action)
  | mempool
  | serverVersion
  deriving DecidableEq

/-- What a query is answered with. -/
abbrev Query.Answer : Query → Type
  | .account _ => AccountState
  | .rewardingBalance => Nat
  | .chainHeight => UInt64
  | .rawBlock _ => RawBlock
  | .transferLogs _ => TransferLogs
  | .transferLogOf _ => TransferLogs
  | .estimateGas _ => UInt64
  | .gasPrice => UInt64
  | .submit _ => Option String
  | .mempool => List ActionHash
  | .serverVersion => Option String

/-- How a node answers at one moment. -/
abbrev Responder := (q : Query) → Except NodeError q.Answer

/-- A conversation that ends with a value. -/
inductive Talk (α : Type) where
  | done (value : α)
  | ask (q : Query) (next : Except NodeError q.Answer → Talk α)

namespace Talk

variable {α β : Type}

/-- Goes on with another conversation. -/
def andThen : Talk α → (α → Talk β) → Talk β
  | done a, f => f a
  | ask q next, f => ask q fun r => (next r).andThen f

instance : Monad Talk where
  pure := done
  bind := andThen

@[simp] theorem andThen_done (t : Talk α) : t.andThen done = t := by
  induction t with
  | done a => rfl
  | ask q next ih => simp only [andThen, ih]

theorem andThen_assoc {γ : Type} (t : Talk α) (f : α → Talk β) (g : β → Talk γ) :
    (t.andThen f).andThen g = t.andThen fun a => (f a).andThen g := by
  induction t with
  | done a => rfl
  | ask q next ih => simp only [andThen, ih]

/-- Holds a conversation with a node that may change between queries: the result, and the
queries in order. -/
def runFrom (node : Nat → Responder) : (moment : Nat) → Talk α → α × List Query
  | _, done a => (a, [])
  | moment, ask q next =>
    let (a, later) := runFrom node (moment + 1) (next (node moment q))
    (a, q :: later)

/-- Holds a conversation with a node that does not change. -/
def run (node : Responder) (t : Talk α) : α × List Query := t.runFrom (fun _ => node) 0

/-- Asks one query; a failure of the node ends the conversation with an error. -/
def query {ε : Type} (q : Query) (onFailure : NodeError → ε) : ExceptT ε Talk q.Answer :=
  ask q fun r => done (r.mapError onFailure)

/-- Ends with what is already known to be a value or an error. -/
def ofExcept {ε : Type} (r : Except ε α) : ExceptT ε Talk α := done r

end Talk

end LedgerGateway
