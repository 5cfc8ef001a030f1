import LedgerGateway.Proofs.Address.Text
import LedgerGateway.Proofs.Key
import LedgerGateway.Proofs.Ledger.ActionReading

/-!
# What an action does to an account

The operations of a transaction name accounts by text, and different accounts have different texts,
so that what they sum up to for an account is what the postings do to it
(`Posting.sumFor_listOperations`). Without a log record these are a fee, from the sender to the
rewarding pool, and what the payload moves, from its payer to its payee. An account may be several
of these; then the parts add up.
-/

namespace LedgerGateway

/-- What operations change the balance of an account by. -/
def Operation.sumFor (account : String) (ops : List Operation) : Int :=
  ((ops.filter fun op => op.account = account).map fun op => op.amount.value).sum

theorem Operation.sumFor_cons (account : String) (op : Operation) (ops : List Operation) :
    sumFor account (op :: ops) =
      (if op.account = account then op.amount.value else 0) + sumFor account ops := by
  by_cases own : op.account = account
  · rw [sumFor, List.filter_cons_of_pos (by simp [own]), List.map_cons, List.sum_cons,
      if_pos own, sumFor]
  · rw [sumFor, List.filter_cons_of_neg (by simp [own]), if_neg own, Int.zero_add, sumFor]

namespace Posting

/-- What a posting changes the balance of an account by. -/
def change (p : Posting) (x : Address) : Int :=
  (if p.credit = x then (p.creditAmount : Int) else 0) - if p.debit =
    x then (p.debitAmount : Int) else 0

theorem sumFor_listOperations {currency : Currency} (ps : List Posting) (index : Nat)
    (x : Address) :
    Operation.sumFor x.text (listOperations currency index ps) =
      (ps.map fun p => p.change x).sum := by
  induction ps generalizing index with
  | nil => rfl
  | cons p ps ih =>
    rw [listOperations_cons, Operation.sumFor_cons, Operation.sumFor_cons, ih, List.map_cons,
      List.sum_cons, change]
    simp only [debitLeg, creditLeg, Address.text_inj]
    split <;> split <;> omega

end Posting

/-- A transaction changes a balance by what its postings change it by, and so does none, which
has no postings. -/
theorem Transaction.sumFor_ofPostings? (hash : ActionHash) (r : Reconciled) (success : Bool)
    (currency : Currency) (x : Address) :
    (ofPostings? hash r success currency).elim 0 (fun t => Operation.sumFor x.text t.operations) =
      ((r.fees ++ if success then r.principal else []).map fun p => p.change x).sum := by
  rw [ofPostings?]
  cases hps : r.fees ++ if success then r.principal else [] with
  | nil => rfl
  | cons p ps => exact Posting.sumFor_listOperations (p :: ps) 0 x

/-! ## The fee -/

/-- What the rewarding pool receives for an action, if the price can be read. A grant pays no
fee. -/
def ActionCore.fee? (core : ActionCore) (receipt : Receipt) : Option Nat :=
  if Reconciled.isGrant core then some 0
  else (Decimal.nat? core.gasPrice.toList).map fun price => price * receipt.gasConsumed.toNat

theorem ActionCore.fee?_of_price {core : ActionCore} {price : Nat}
    (paid : Reconciled.isGrant core = false) (told : Decimal.nat? core.gasPrice.toList = some price)
    (receipt : Receipt) : core.fee? receipt = some (Fee.charge core receipt) := by
  rw [fee?, paid, Fee.charge, told]
  rfl

theorem Fee.sum_change {core : ActionCore} {sender : Address} {receipt : Receipt} {height : UInt64}
    {ctx : LedgerContext} {fee : Option Posting}
    (known : ofCore core sender receipt height ctx = .ok fee) (x : Address) :
    (fee.toList.map fun p => p.change x).sum =
      (if ctx.pools.rewarding = x then (charge core receipt : Int) else 0) -
        if sender = x then
          ((if ChargedTwice core height ctx then 2 * charge core receipt
              else charge core receipt : Nat) : Int)
        else 0 := by
  obtain ⟨-, rfl⟩ := ofCore_eq_ok.mp known
  by_cases free : charge core receipt = 0
  · simp [free]
  · by_cases twice : ChargedTwice core height ctx
    · simp [free, twice, double, Posting.change]
    · simp [free, twice, Posting.balanced, Posting.change]

/-! ## What the payload moves -/

namespace Payload

/-- The text of the amount that a payload moves. Withdrawals, unstakings and grants tell none. -/
def amountText? : Payload → Option String
  | .transfer t => some t.amount
  | .execution e => some e.amount
  | .stakeCreate s => some s.stakedAmount
  | .stakeAddDeposit s => some s.amount
  | .candidateRegister c => some c.stakedAmount
  | .depositToRewardingFund d => some d.amount
  | .claimFromRewardingFund c => some c.amount
  | .stakeWithdraw _ | .grantReward _ | .stakeUnstake _ => none

/-- The account that the amount leaves: that of the sender, except that rewards are claimed
from their pool. -/
def payer (sender : Address) (pools : Pools) : Payload → Address
  | .claimFromRewardingFund _ => pools.rewarding
  | _ => sender

/-- The account that the amount reaches, if it can be told. -/
def payee? (sender : Address) (receipt : Receipt) (pools : Pools) : Payload → Option Address
  | .transfer t => (Address.ofText t.recipient).toOption
  | .execution e =>
    if e.contract = "" then receipt.contractAddress else (Address.ofText e.contract).toOption
  | .stakeCreate _ | .stakeAddDeposit _ | .candidateRegister _ => some pools.staking
  | .depositToRewardingFund _ => some pools.rewarding
  | .claimFromRewardingFund _ => some sender
  | .stakeWithdraw _ | .grantReward _ | .stakeUnstake _ => none

end Payload

namespace ActionCore

/-- What an executed action moves, if the amount can be read. -/
def amount? (core : ActionCore) : Option Nat :=
  match core.payload.bind Payload.amountText? with
  | some text => Decimal.nat? text.toList
  | none => some 0

/-- What an action moves: nothing, if it failed. -/
def moved? (core : ActionCore) (receipt : Receipt) : Option Nat :=
  if receipt.status = 1 then core.amount? else some 0

def payer (core : ActionCore) (sender : Address) (pools : Pools) : Address :=
  core.payload.elim sender (Payload.payer sender pools)

def payee? (core : ActionCore) (sender : Address) (receipt : Receipt) (pools : Pools) :
    Option Address :=
  core.payload.bind (Payload.payee? sender receipt pools)

end ActionCore

namespace Movement

variable {action : Action} {core : ActionCore} {payload : Payload} {type : OperationType}
  {text : String} {other : Counterparty} {account : Address} {receipt : Receipt} {pools : Pools}

theorem amountText?_eq (core : ActionCore) :
    core.payload.bind Payload.amountText? =
      (core.payload.bind ofPayload?).map fun what => what.2.1 := by
  cases core.payload with
  | none => rfl
  | some payload => cases payload <;> rfl

/-- The counterparty is the payee, unless it is the pool that rewards are claimed from. -/
theorem posting_ofPayload? (named : ofPayload? payload = some (type, text, other))
    (found : other.address receipt pools = .ok account) (sender : Address) (amount : Nat) :
    ∃ payee, payload.payee? sender receipt pools = some payee ∧
      posting ⟨type, amount, account, type != .claimFromRewardingFund⟩ sender =
        .balanced type (payload.payer sender pools) payee amount := by
  cases payload with
  | transfer t =>
    cases named
    have recipient := Counterparty.address_account.mp found
    exact ⟨account, by rw [Payload.payee?, recipient]; rfl, rfl⟩
  | execution e =>
    cases named
    have contract := Counterparty.address_contract.mp found
    refine ⟨account, ?_, rfl⟩
    rw [Payload.payee?]
    by_cases created : e.contract = ""
    · rw [if_pos created] at contract ⊢
      exact contract
    · rw [if_neg created] at contract ⊢
      rw [contract]
      rfl
  | stakeWithdraw _ | grantReward _ | stakeUnstake _ => cases named
  | _ =>
    cases named
    cases found
    exact ⟨_, rfl, rfl⟩

/-- What an action moves leaves its payer and reaches its payee, who is known if it is not zero. -/
theorem sum_change {moved : Option Movement} (hcore : action.core = some core)
    (h : ofAction action receipt pools = .ok moved) (sender : Address) :
    ∃ amount, core.amount? = some amount ∧
      (amount ≠ 0 → ∃ payee, core.payee? sender receipt pools = some payee) ∧
      ∀ x, ((moved.map fun m => m.posting sender).toList.map fun p => p.change x).sum =
        (if core.payee? sender receipt pools = some x then (amount : Int) else 0) -
          if core.payer sender pools = x then (amount : Int) else 0 := by
  cases named : core.payload.bind ofPayload? with
  | none =>
    obtain rfl : none = moved := Except.ok.inj ((ofAction_none hcore named).symm.trans h)
    refine ⟨0, ?_, by simp, by simp⟩
    rw [ActionCore.amount?, amountText?_eq, named]
    rfl
  | some what =>
    obtain ⟨type, text, other⟩ := what
    obtain ⟨payload, hpayload, what⟩ := Option.bind_eq_some_iff.mp named
    obtain ⟨amount, read, outcome⟩ := (ofAction_eq_ok hcore named).mp h
    have told : core.amount? = some amount := by
      rw [ActionCore.amount?, amountText?_eq, named]
      exact read
    refine ⟨amount, told, ?_⟩
    obtain ⟨rfl, rfl⟩ | ⟨moves, account, found, rfl⟩ := outcome
    · simp
    · obtain ⟨payee, hpayee, shown⟩ := posting_ofPayload? what found sender amount
      have reached : core.payee? sender receipt pools = some payee := by
        rw [ActionCore.payee?, hpayload]
        exact hpayee
      have left : core.payer sender pools = payload.payer sender pools := by
        rw [ActionCore.payer, hpayload]
        rfl
      refine ⟨fun _ => ⟨payee, reached⟩, fun x => ?_⟩
      simp [shown, reached, left, Posting.change, Posting.balanced]

/-- The same of an action that may have failed and then moves nothing. -/
theorem sum_change_executed {moved : Option Movement} (hcore : action.core = some core)
    (h : (if receipt.isSuccess then ofAction action receipt pools else .ok none) = .ok moved)
    (sender : Address) :
    ∃ amount, core.moved? receipt = some amount ∧
      (amount ≠ 0 → ∃ payee, core.payee? sender receipt pools = some payee) ∧
      ∀ x, ((if receipt.isSuccess then (moved.map fun m => m.posting sender).toList else []).map
          fun p => p.change x).sum =
        (if core.payee? sender receipt pools = some x then (amount : Int) else 0) -
          if core.payer sender pools = x then (amount : Int) else 0 := by
  by_cases success : receipt.isSuccess = true
  · rw [if_pos success] at h
    rw [ActionCore.moved?, if_pos (Receipt.isSuccess_iff.mp success), if_pos success]
    exact sum_change hcore h sender
  · rw [ActionCore.moved?, if_neg (mt Receipt.isSuccess_iff.mpr success), if_neg success]
    exact ⟨0, rfl, by simp, by simp⟩

end Movement

/-- Without a log record, an action takes its fee from its sender, twice where it was charged twice,
and brings it to the rewarding pool; and it takes what it moves from the payer and brings it to the
payee, who is known unless it moves nothing. It does nothing else to any account. -/
theorem RawBlock.decodeAction_changes {b : RawBlock} {hash : ActionHash} {action : Action}
    {ctx : LedgerContext} {found : Option Transaction}
    (h : b.decodeAction hash action none ctx = .ok found) :
    ∃ receipt sender core fee amount, b.lastReceipt? hash = some receipt ∧
      action.senderAddress = .ok sender ∧
      action.core = some core ∧ core.fee? receipt = some fee ∧ core.moved? receipt = some amount ∧
      (amount ≠ 0 → ∃ payee, core.payee? sender receipt ctx.pools = some payee) ∧
      ∀ x : Address, found.elim 0 (fun t => Operation.sumFor x.text t.operations) =
        (if ctx.pools.rewarding = x then (fee : Int) else 0) -
          (if sender = x then
            ((if Fee.ChargedTwice core b.height ctx then 2 * fee else fee : Nat) : Int) else 0) +
          (if core.payee? sender receipt ctx.pools = some x then (amount : Int) else 0) -
          (if core.payer sender ctx.pools = x then (amount : Int) else 0) := by
  obtain ⟨receipt, hreceipt, key, hkey, r, hr, rfl⟩ := decodeAction_eq_ok.mp h
  obtain ⟨core, hcore⟩ := Reconciled.core_of_eq_ok hr
  have hsender := Action.senderAddress_eq_ok.mpr ⟨key, hkey, rfl⟩
  obtain ⟨grant, rfl⟩ | ⟨paid, fee, known, moved, hmoved, rfl⟩ :=
    Reconciled.withoutLogs_eq_ok.mp ((Reconciled.ofAction_eq_ok hcore).mp hr)
  · -- a grant names no amount
    obtain ⟨g, hg⟩ := Reconciled.isGrant_iff.mp grant
    have free : core.fee? receipt = some 0 := by rw [ActionCore.fee?, if_pos grant]
    have still : core.moved? receipt = some 0 := by
      rw [ActionCore.moved?, ActionCore.amount?, hg]
      split <;> rfl
    refine ⟨receipt, _, core, 0, 0, hreceipt, hsender, hcore, free, still, by simp, fun x => ?_⟩
    rw [Transaction.sumFor_ofPostings?]
    simp
  · obtain ⟨⟨price, told⟩, -⟩ := Fee.ofCore_eq_ok.mp known
    obtain ⟨amount, moves, reached, sums⟩ :=
      Movement.sum_change_executed hcore hmoved (Address.ofKey key)
    refine ⟨receipt, _, core, _, amount, hreceipt, hsender, hcore,
      ActionCore.fee?_of_price paid told receipt, moves, reached, fun x => ?_⟩
    rw [Transaction.sumFor_ofPostings?, List.map_append, List.sum_append,
      Fee.sum_change known, sums x]
    omega

namespace Specimen

/-- The account that creates a contract in `block`. -/
def creator : Address := Address.ofKey ⟨_, _, generator_isPoint⟩

def creationCore : ActionCore := { gasPrice := "3", payload := some (.execution { amount := "7" }) }

def creationAction : Action := { core := some creationCore, senderKey }

/-- The contract is created at the address of its creator. -/
def ownReceipt : Receipt := ⟨Hash.digest256 creation, 1, 100, some creator⟩

def ownBlock : RawBlock := { block with receipts := [ownReceipt] }

/-- A chain on which the creator is the rewarding pool. -/
def ownContext : LedgerContext := { pools := { rewarding := creator } }

theorem ownBlock_receipt : ownBlock.lastReceipt? (Hash.digest256 creation) = some ownReceipt := by
  simp [RawBlock.lastReceipt?, ownBlock, ownReceipt]

theorem creationAction_sender : creationAction.senderAddress = .ok creator :=
  Action.senderAddress_eq_ok.mpr ⟨_, PublicKey.ofBytes_uncompressed _, rfl⟩

theorem creationAction_decoded : ∃ found,
    ownBlock.decodeAction (Hash.digest256 creation) creationAction none ownContext = .ok found := by
  have reconciled :
      Reconciled.ofAction creationAction creator ownReceipt ownBlock.height none ownContext =
        .ok ⟨[Fee.double creator ownContext 300],
          [.balanced .inContractTransfer creator creator 7]⟩ := rfl
  exact ⟨_, RawBlock.decodeAction_eq_ok.mpr
    ⟨_, ownBlock_receipt, _, PublicKey.ofBytes_uncompressed _, _, reconciled, rfl⟩⟩

/-- Sender, pool and contract are one account: it pays 600 for gas, gets 300 of that, and
moves 7 to itself. -/
theorem creator_changes : ∃ found,
    ownBlock.decodeAction (Hash.digest256 creation) creationAction none ownContext = .ok found ∧
      found.elim 0 (fun t => Operation.sumFor creator.text t.operations) = 300 - 600 + 7 - 7 := by
  obtain ⟨found, decoded⟩ := creationAction_decoded
  obtain ⟨receipt, sender, core, fee, amount, hreceipt, hsender, hcore, hfee, hamount,
      -, changes⟩ :=
    RawBlock.decodeAction_changes decoded
  obtain rfl := Option.some.inj (ownBlock_receipt.symm.trans hreceipt)
  obtain rfl := Except.ok.inj (creationAction_sender.symm.trans hsender)
  obtain rfl : creationCore = core := Option.some.inj hcore
  obtain rfl : 300 = fee := Option.some.inj hfee
  obtain rfl : 7 = amount := Option.some.inj hamount
  have pool : ownContext.pools.rewarding = creator := rfl
  have twice : Fee.ChargedTwice creationCore ownBlock.height ownContext := ⟨rfl, by decide⟩
  have reached : creationCore.payee? creator ownReceipt ownContext.pools = some creator := rfl
  have left : creationCore.payer creator ownContext.pools = creator := rfl
  refine ⟨found, decoded, ?_⟩
  rw [changes creator, if_pos pool, if_pos rfl, if_pos twice, if_pos reached, if_pos left]
  rfl

end Specimen

end LedgerGateway
