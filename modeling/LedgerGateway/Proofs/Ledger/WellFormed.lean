import Mathlib.Data.Set.List
import LedgerGateway.Proofs.Ledger.ActionReading

/-!
# Blocks that can be shown

A block is shown as a whole or not at all. `RawBlock.WellFormed` lists what it takes: the conditions
do not depend on the currency, the pools or the Pacific height, and they are lazy. A price is looked
at only if the fee has to be computed, and a payload only if nothing else tells what moved.
-/

namespace LedgerGateway

open Outcome

/-- Both accounts, the amount and the kind of a logged transfer can be read. -/
structure LoggedTransfer.Readable {μ : Type} (known : μ → Prop) (t : LoggedTransfer μ) : Prop where
  sender : ∃ a, Address.ofText t.sender = .ok a
  recipient : ∃ a, Address.ofText t.recipient = .ok a
  amount : Digits t.amount
  kind : known t.mark

namespace TransferLogs

def KnownTopic (topic : Bytes) : Prop := topic = inContractTopic ∨ topic = withdrawTopic

def KnownNumber (number : Int) : Prop := 0 ≤ number ∧ number ≤ 9

/-- Every transfer of every record can be read. -/
def Readable : TransferLogs → Prop
  | unavailable => True
  | implicit records => ∀ r ∈ records, ∀ t ∈ r.transfers, t.Readable KnownTopic
  | transaction records => ∀ r ∈ records, ∀ t ∈ r.transfers, t.Readable KnownNumber

/-- The logs list a fee other than zero for an action. -/
def ListFee (logs : TransferLogs) (hash : ActionHash) : Prop :=
  ∃ entries, logs.entries = .ok entries ∧
    ∃ e ∈ entries, e.actionHash = hash ∧ e.type = .gasFee ∧ e.amount ≠ 0

theorem typeOfTopic_succeeds {topic : Bytes} :
    (∃ type, typeOfTopic topic = .ok type) ↔ KnownTopic topic := by
  unfold typeOfTopic KnownTopic
  split
  · simp [*]
  · split <;> simp [*]

theorem typeOfNumber_succeeds {number : Int} :
    (∃ type, typeOfNumber number = .ok type) ↔ KnownNumber number := by
  have known : (∃ type, OperationType.ofLogType? number = some type) ↔ KnownNumber number := by
    unfold OperationType.ofLogType? KnownNumber
    split
    · simp
      omega
    · rw [← Option.isSome_iff_exists, isSome_getElem?]
      simp only [OperationType.all, List.length_cons, List.length_nil]
      omega
  unfold typeOfNumber
  rw [← known]
  cases OperationType.ofLogType? number <;> simp

section
variable {μ : Type} {typeOf : μ → Except CodecError OperationType} {known : μ → Prop}

theorem readTransfer_succeeds (hknown : ∀ m, (∃ type, typeOf m = .ok type) ↔ known m)
    (hash : ActionHash) (t : LoggedTransfer μ) :
    (∃ e, readTransfer typeOf hash t = .ok e) ↔ t.Readable known := by
  simp only [readTransfer, bind_eq_ok, readAddress_eq_ok, readAmount_eq_ok, pure_eq_ok]
  constructor
  · rintro ⟨_, sender, hsender, recipient, hrecipient, amount, hamount, type, htype, rfl⟩
    exact ⟨⟨sender, hsender⟩, ⟨recipient, hrecipient⟩, exists_nat?_iff.mp ⟨amount, hamount⟩,
      (hknown t.mark).mp ⟨type, htype⟩⟩
  · rintro ⟨⟨sender, hsender⟩, ⟨recipient, hrecipient⟩, digits, kind⟩
    obtain ⟨amount, hamount⟩ := exists_nat?_iff.mpr digits
    obtain ⟨type, htype⟩ := (hknown t.mark).mpr kind
    exact ⟨_, sender, hsender, recipient, hrecipient, amount, hamount, type, htype, rfl⟩

theorem readRecords_succeeds (hknown : ∀ m, (∃ type, typeOf m = .ok type) ↔ known m)
    (records : List (LogRecord μ)) :
    (∃ entries, readRecords typeOf records = .ok entries) ↔
      ∀ r ∈ records, ∀ t ∈ r.transfers, t.Readable known := by
  have parts : (∃ entries, readRecords typeOf records = .ok entries) ↔ ∃ parts,
      (records.mapM fun r => r.transfers.mapM (readTransfer typeOf r.actionHash)) = .ok parts := by
    simp only [readRecords, bind_eq_ok, pure_eq_ok]
    constructor
    · rintro ⟨_, parts, h, -⟩
      exact ⟨parts, h⟩
    · rintro ⟨parts, h⟩
      exact ⟨_, parts, h, rfl⟩
  simp only [parts, mapM_succeeds, readTransfer_succeeds hknown]

end

theorem entries_succeeds {logs : TransferLogs} :
    (∃ entries, logs.entries = .ok entries) ↔ logs.Readable := by
  cases logs with
  | unavailable => exact ⟨fun _ => trivial, fun _ => ⟨[], rfl⟩⟩
  | implicit records => exact readRecords_succeeds (fun _ => typeOfTopic_succeeds) records
  | transaction records => exact readRecords_succeeds (fun _ => typeOfNumber_succeeds) records

/-- What the records of an action list is found among all entries under its name. -/
theorem listFee_iff {logs : TransferLogs} {hash : ActionHash} {entries : List LogEntry}
    {own : Option (List LogEntry)} (hentries : logs.entries = .ok entries)
    (hown : logs.entriesOf? hash = .ok own) : logs.ListFee hash ↔ ListsFee (own.getD []) := by
  have grouped : own.getD [] = entries.filter fun e => e.actionHash == hash := by
    rw [entriesOf?_eq hash hentries] at hown
    obtain rfl := Except.ok.inj hown
    split
    · rfl
    · rename_i unnamed
      symm
      apply List.filter_eq_nil_iff.mpr
      intro e he named
      exact unnamed (eq_of_beq named ▸ entries_named hentries e he)
  rw [grouped]
  simp only [ListFee, hentries, Except.ok.injEq, exists_eq_left', ListsFee, List.mem_filter,
    beq_iff_eq, and_assoc]

end TransferLogs

/-- What a payload must say where nothing else tells what moved: an amount and, if this is not zero,
an account that it goes to. A contract without address must have been created. -/
def Payload.Tells (receipt : Receipt) : Payload → Prop
  | .transfer t =>
    Digits t.amount ∧ (Decimal.value t.amount.toList ≠ 0 → ∃ a, Address.ofText t.recipient = .ok a)
  | .execution e =>
    Digits e.amount ∧ (Decimal.value e.amount.toList ≠ 0 →
      if e.contract = "" then ∃ a, receipt.contractAddress = some a
      else ∃ a, Address.ofText e.contract = .ok a)
  | .stakeCreate s => Digits s.stakedAmount
  | .stakeAddDeposit s => Digits s.amount
  | .candidateRegister c => Digits c.stakedAmount
  | .depositToRewardingFund d => Digits d.amount
  | .claimFromRewardingFund c => Digits c.amount
  | .stakeWithdraw _ | .grantReward _ | .stakeUnstake _ => True

namespace Movement

variable {action : Action} {core : ActionCore} {receipt : Receipt} {pools : Pools}

theorem contract_address_succeeds {contract : String} :
    (∃ a, (Counterparty.contract contract).address receipt pools = .ok a) ↔
      if contract = "" then ∃ a, receipt.contractAddress = some a
      else ∃ a, Address.ofText contract = .ok a := by
  simp only [Counterparty.address_contract]
  split <;> rfl

theorem tells_of_none {payload : Payload} (named : ofPayload? payload = none) :
    payload.Tells receipt := by
  cases payload with
  | stakeWithdraw _ | grantReward _ | stakeUnstake _ => trivial
  | _ => cases named

theorem tells_iff {payload : Payload} {type : OperationType} {text : String} {other : Counterparty}
    (named : ofPayload? payload = some (type, text, other)) :
    payload.Tells receipt ↔
      Digits text ∧ (Decimal.value text.toList ≠ 0 → ∃ a, other.address receipt pools = .ok a) := by
  cases payload with
  | transfer t =>
    cases named
    simp only [Payload.Tells, Counterparty.address_account]
  | execution e =>
    cases named
    simp only [Payload.Tells, contract_address_succeeds]
  | stakeWithdraw _ | grantReward _ | stakeUnstake _ => cases named
  | _ =>
    cases named
    simp only [Payload.Tells, Counterparty.address, Except.ok.injEq, exists_eq',
      implies_true, and_true]

theorem ofAction_succeeds (hcore : action.core = some core) :
    (∃ moved, ofAction action receipt pools = .ok moved) ↔
      ∀ payload, core.payload = some payload → payload.Tells receipt := by
  cases named : core.payload.bind ofPayload? with
  | none =>
    refine ⟨fun _ payload hpayload => tells_of_none ?_, fun _ => ⟨none, ofAction_none hcore named⟩⟩
    rwa [hpayload] at named
  | some what =>
    obtain ⟨type, text, other⟩ := what
    obtain ⟨payload, hpayload, what⟩ := Option.bind_eq_some_iff.mp named
    have tells : payload.Tells receipt ↔ Digits text ∧
      (Decimal.value text.toList ≠ 0 → ∃ a, other.address receipt pools = .ok a) := tells_iff what
    simp only [hpayload, Option.some.injEq, forall_eq', tells,
      ofAction_eq_ok hcore named, nat?_eq_some]
    constructor
    · rintro ⟨moved, _, ⟨digits, rfl⟩, ⟨zero, -⟩ | ⟨-, a, ha, -⟩⟩
      · exact ⟨digits, fun moves => absurd zero moves⟩
      · exact ⟨digits, fun _ => ⟨a, ha⟩⟩
    · rintro ⟨digits, account⟩
      by_cases zero : Decimal.value text.toList = 0
      · exact ⟨none, _, ⟨digits, rfl⟩, .inl ⟨zero, rfl⟩⟩
      · obtain ⟨a, ha⟩ := account zero
        exact ⟨_, _, ⟨digits, rfl⟩, .inr ⟨zero, a, ha, rfl⟩⟩

end Movement

namespace Reconciled

variable {action : Action} {core : ActionCore} {sender : Address} {receipt : Receipt}
  {height : UInt64} {ctx : LedgerContext}

theorem fee_succeeds :
    (∃ fee, Fee.ofCore core sender receipt height ctx = .ok fee) ↔ Digits core.gasPrice := by
  simp only [Fee.ofCore_eq_ok, exists_nat?_iff, exists_and_left, exists_eq', and_true]

/-- The price matters unless the record lists the fee or a grant has no record, and the payload
matters if the action has no record and succeeded. -/
theorem ofAction_succeeds {own : Option (List LogEntry)} (hcore : action.core = some core) :
    (∃ r, ofAction action sender receipt height own ctx = .ok r) ↔
      (¬ ListsFee (own.getD []) → ¬ (isGrant core = true ∧ own = none) → Digits core.gasPrice) ∧
      (own = none → receipt.isSuccess = true → ∀ payload,
        core.payload = some payload → payload.Tells receipt) := by
  simp only [ofAction_eq_ok hcore]
  cases own with
  | none =>
    have unlisted : ¬ ListsFee [] := by simp [ListsFee]
    simp only [withoutLogs_eq_ok, Option.getD_none, unlisted, not_false_eq_true,
      and_true, true_imp_iff]
    constructor
    · rintro ⟨r, ⟨grant, -⟩ | ⟨paid, fee, hfee, moved, hmoved, -⟩⟩
      · refine ⟨fun paid => absurd grant paid, fun _ payload hpayload => ?_⟩
        simp only [isGrant, hpayload] at grant
        cases payload <;> trivial
      · refine ⟨fun _ => fee_succeeds.mp ⟨fee, hfee⟩, fun success => ?_⟩
        rw [if_pos success] at hmoved
        exact (Movement.ofAction_succeeds hcore).mp ⟨moved, hmoved⟩
    · rintro ⟨price, tells⟩
      cases grant : isGrant core with
      | true => exact ⟨{}, .inl ⟨rfl, rfl⟩⟩
      | false =>
        obtain ⟨fee, hfee⟩ := fee_succeeds.mpr (price (by simp [grant]))
        have moves : ∃ moved,
            (if receipt.isSuccess then Movement.ofAction action receipt ctx.pools else .ok none) =
              .ok moved := by
          split
          · rename_i success
            exact (Movement.ofAction_succeeds hcore).mpr (tells success)
          · exact ⟨none, rfl⟩
        obtain ⟨moved, hmoved⟩ := moves
        exact ⟨_, .inr ⟨rfl, fee, hfee, moved, hmoved, rfl⟩⟩
  | some entries =>
    simp only [withLogs_eq_ok, Option.getD_some, reduceCtorEq, and_false, not_false_eq_true,
      true_imp_iff, false_imp_iff, and_true]
    constructor
    · rintro ⟨r, ⟨lists, -⟩ | ⟨-, fee, hfee, -⟩⟩
      · exact fun unlisted => absurd lists unlisted
      · exact fun _ => fee_succeeds.mp ⟨fee, hfee⟩
    · intro price
      by_cases lists : ListsFee entries
      · exact ⟨_, .inl ⟨lists, rfl⟩⟩
      · obtain ⟨fee, hfee⟩ := fee_succeeds.mpr (price lists)
        exact ⟨_, .inr ⟨lists, fee, hfee, rfl⟩⟩

end Reconciled

/-- What the action of some octets must have to be shown: a receipt, the key of its sender, a price
where the fee has to be computed, and a telling payload where nothing else says what moved. -/
structure ActionWellFormed (b : RawBlock) (logs : TransferLogs) (octets : Bytes) (action : Action)
    (core : ActionCore) : Prop where
  receipt : ∃ r ∈ b.receipts, r.actionHash = Hash.digest256 octets
  key : ∃ key, PublicKey.ofBytes action.senderKey = .ok key
  price : ¬ logs.ListFee (Hash.digest256 octets) →
    ¬ ((∃ g, core.payload = some (.grantReward g)) ∧ Hash.digest256 octets ∉ logs.actionHashes) →
    Digits core.gasPrice
  movement : ∀ receipt payload, Hash.digest256 octets ∉ logs.actionHashes →
    b.lastReceipt? (Hash.digest256 octets) = some receipt →
    receipt.status = 1 → core.payload = some payload →
    payload.Tells receipt

namespace RawBlock

variable {b : RawBlock} {logs : TransferLogs} {ctx : LedgerContext}

/-- What a block must have to be shown. -/
structure WellFormed (b : RawBlock) (logs : TransferLogs) : Prop where
  actions : ∀ octets ∈ b.actions, ∃ action core,
    Action.ofBytes octets = .ok action ∧
      action.core = some core ∧ ActionWellFormed b logs octets action core
  transfers : logs.Readable
  records : ∀ hash ∈ logs.actionHashes, ∃ octets ∈ b.actions, Hash.digest256 octets = hash

theorem lastReceipt?_succeeds {hash : ActionHash} :
    (∃ receipt, b.lastReceipt? hash = some receipt) ↔ ∃ r ∈ b.receipts, r.actionHash = hash := by
  rw [lastReceipt?, ← Option.isSome_iff_exists, List.getLast?_isSome, ne_eq, List.filter_eq_nil_iff]
  simp

/-- An action can be read alone exactly when it is well-formed. -/
theorem reading_exists (hlogs : logs.Readable) {octets : Bytes} :
    (∃ r : ActionReading b logs ctx, r.octets = octets) ↔ ∃ action core,
      Action.ofBytes octets = .ok action ∧ action.core = some core ∧
        ActionWellFormed b logs octets action core := by
  obtain ⟨all, hall⟩ := TransferLogs.entries_succeeds.mpr hlogs
  obtain ⟨own, hown⟩ : ∃ own, logs.entriesOf? (Hash.digest256 octets) = .ok own :=
    ⟨_, TransferLogs.entriesOf?_eq _ hall⟩
  have unnamed : own = none ↔ Hash.digest256 octets ∉ logs.actionHashes := by
    obtain rfl := Except.ok.inj (hown.symm.trans (TransferLogs.entriesOf?_eq _ hall))
    simp only [ite_eq_right_iff, reduceCtorEq, imp_false]
  have lists := TransferLogs.listFee_iff hall hown
  constructor
  · rintro ⟨r, rfl⟩
    obtain rfl : r.entries = own := Except.ok.inj (r.entries_eq.symm.trans hown)
    obtain ⟨price, movement⟩ := (Reconciled.ofAction_succeeds r.core_eq).mp ⟨_, r.reconciled_eq⟩
    refine ⟨r.action, r.core, r.action_eq, r.core_eq, ?_, ⟨r.key, r.key_eq⟩, ?_, ?_⟩
    · exact lastReceipt?_succeeds.mp ⟨r.receipt, r.receipt_eq⟩
    · rwa [lists, ← unnamed, ← Reconciled.isGrant_iff]
    · intro receipt payload without last success hpayload
      obtain rfl := Option.some.inj (r.receipt_eq.symm.trans last)
      exact movement (unnamed.mpr without) (Receipt.isSuccess_iff.mpr success) payload hpayload
  · rintro ⟨action, core, haction, hcore, parts⟩
    obtain ⟨receipt, hreceipt⟩ := lastReceipt?_succeeds.mpr parts.receipt
    obtain ⟨key, hkey⟩ := parts.key
    have known :
        ∃ r, Reconciled.ofAction action (Address.ofKey key) receipt b.height own ctx = .ok r := by
      refine (Reconciled.ofAction_succeeds hcore).mpr ⟨?_, ?_⟩
      · rw [← lists, unnamed, Reconciled.isGrant_iff]
        exact parts.price
      · intro without success payload
        exact parts.movement receipt payload (unnamed.mp without) hreceipt
          (Receipt.isSuccess_iff.mp success)
    obtain ⟨reconciled, hreconciled⟩ := known
    exact ⟨⟨octets, action, core, key, receipt, own, reconciled,
      haction, hcore, hkey, hreceipt, hown, hreconciled⟩, rfl⟩

/-- A block is shown exactly when it is well-formed, whatever the context it is shown in. -/
theorem decode_succeeds_iff :
    (∃ txs, b.decode logs ctx = .ok txs) ↔ b.WellFormed logs := by
  have each : (∃ readings : List (ActionReading b logs ctx), readings.map (·.octets) = b.actions) ↔
      ∀ octets ∈ b.actions, ∃ r : ActionReading b logs ctx, r.octets = octets :=
    Set.ext_iff.mp (Set.range_list_map _) b.actions
  simp only [decode_eq_ok, TransferLogs.entries_succeeds]
  constructor
  · rintro ⟨_, transfers, records, readings, hreadings, -⟩
    refine ⟨fun octets hoctets => ?_, transfers,
      fun hash hhash => List.mem_map.mp (records hash hhash)⟩
    exact (reading_exists transfers).mp (each.mp ⟨readings, hreadings⟩ octets hoctets)
  · intro h
    obtain ⟨readings, hreadings⟩ :=
      each.mpr fun octets hoctets => (reading_exists h.transfers).mpr (h.actions octets hoctets)
    exact ⟨_, h.transfers, fun hash hhash => List.mem_map.mpr (h.records hash hhash), readings,
      hreadings, rfl⟩

end RawBlock

end LedgerGateway
