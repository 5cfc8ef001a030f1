import LedgerGateway.Proofs.Ledger.LogGroups
import LedgerGateway.Proofs.Ledger.Reconcile

/-!
# Reading actions one at a time

A block is read as a whole: its receipts and its log records are indexed before any action is looked
at. An `ActionReading` is the plain account of what one action is read with, which is its own
octets, its own receipt and the log records that name it. A block is decoded exactly when each of
its actions can be read alone, all log records can be read and none is left over (`decode_eq_ok`);
the transactions are those of the readings.
-/

namespace LedgerGateway

open Outcome

/-- The last receipt that names an action. -/
def RawBlock.lastReceipt? (b : RawBlock) (hash : ActionHash) : Option Receipt :=
  (b.receipts.filter fun r => r.actionHash == hash).getLast?

theorem RawBlock.receipt?_eq_lastReceipt? (b : RawBlock) (hash : ActionHash) :
    b.receipt? hash = b.lastReceipt? hash := by
  rw [receipt?, lastReceipt?, ← List.head?_filter, List.filter_reverse, List.head?_reverse]

/-- One action of a block with all that it is read with. Nothing of it belongs to another action. -/
structure ActionReading (b : RawBlock) (logs : TransferLogs) (ctx : LedgerContext) where
  octets : Bytes
  action : Action
  core : ActionCore
  key : PublicKey
  receipt : Receipt
  entries : Option (List LogEntry)
  reconciled : Reconciled
  action_eq : Action.ofBytes octets = .ok action
  core_eq : action.core = some core
  key_eq : PublicKey.ofBytes action.senderKey = .ok key
  receipt_eq : b.lastReceipt? (Hash.digest256 octets) = some receipt
  entries_eq : logs.entriesOf? (Hash.digest256 octets) = .ok entries
  reconciled_eq :
    Reconciled.ofAction action (Address.ofKey key) receipt b.height entries ctx = .ok reconciled

namespace ActionReading

variable {b : RawBlock} {logs : TransferLogs} {ctx : LedgerContext}

def hash (r : ActionReading b logs ctx) : ActionHash := Hash.digest256 r.octets

/-- The postings that are shown: a failed action keeps its fees only. -/
def postings (r : ActionReading b logs ctx) : List Posting :=
  r.reconciled.fees ++ if r.receipt.isSuccess then r.reconciled.principal else []

def transaction? (r : ActionReading b logs ctx) : Option Transaction :=
  Transaction.ofPostings? r.hash r.reconciled r.receipt.isSuccess ctx.currency

theorem transaction?_eq (r : ActionReading b logs ctx) :
    r.transaction? = if r.postings.isEmpty then none
      else some ⟨r.hash.text, Posting.listOperations ctx.currency 0 r.postings⟩ :=
  rfl

theorem transaction?_eq_none (r : ActionReading b logs ctx) :
    r.transaction? = none ↔ r.postings = [] := by
  rw [transaction?_eq]
  simp

theorem transaction?_eq_some {r : ActionReading b logs ctx} {t : Transaction}
    (h : r.transaction? = some t) :
    r.postings ≠ [] ∧ t = ⟨r.hash.text, Posting.listOperations ctx.currency 0 r.postings⟩ := by
  rw [transaction?_eq] at h
  split at h
  · cases h
  · rename_i moves
    exact ⟨by simpa using moves, (Option.some.inj h).symm⟩

/-- Behind the fees stand only settled postings. -/
theorem postings_settled (r : ActionReading b logs ctx) :
    ∃ principal, r.postings = r.reconciled.fees ++ principal ∧
      ∀ p ∈ principal, p.type ≠ .gasFee ∧ p.Settled := by
  refine ⟨_, rfl, ?_⟩
  split
  · exact Reconciled.principal_settled r.core_eq r.reconciled_eq
  · simp

end ActionReading

namespace RawBlock

variable {b : RawBlock} {logs : TransferLogs} {ctx : LedgerContext}

theorem decodeActions_names {actions : List (ActionHash × Action)}
    (h : b.decodeActions = .ok actions) : actions.map Prod.fst = b.actions.map Hash.digest256 := by
  replace h := mapM_eq_ok.mp h
  generalize b.actions = all at h ⊢
  induction h with
  | nil => rfl
  | cons head _ ih =>
    simp only [bind_eq_ok, pure_eq_ok] at head
    obtain ⟨action, -, rfl⟩ := head
    rw [List.map_cons, List.map_cons, ih]

theorem decodeAction_eq_ok {hash : ActionHash} {action : Action} {entries : Option (List LogEntry)}
    {found : Option Transaction} :
    b.decodeAction hash action entries ctx = .ok found ↔
      ∃ receipt, b.lastReceipt? hash = some receipt ∧
        ∃ key, PublicKey.ofBytes action.senderKey = .ok key ∧
          ∃ reconciled,
            Reconciled.ofAction action (Address.ofKey key) receipt b.height entries ctx =
              .ok reconciled ∧
            Transaction.ofPostings? hash reconciled receipt.isSuccess ctx.currency = found := by
  rw [decodeAction, receipt?_eq_lastReceipt?]
  cases b.lastReceipt? hash with
  | none => simp [throw_ne_ok]
  | some receipt =>
    simp only [bind_eq_ok, mapError_eq_ok, Action.senderAddress_eq_ok, pure_eq_ok,
      Option.some.injEq, exists_eq_left']
    constructor
    · rintro ⟨_, ⟨key, hkey, rfl⟩, rest⟩
      exact ⟨key, hkey, rest⟩
    · rintro ⟨key, hkey, rest⟩
      exact ⟨_, ⟨key, hkey, rfl⟩, rest⟩

/-- The action is decoded with the group of its name exactly when it can be read alone. -/
theorem decodeAction_iff_reading {groups : LogGroups} (hgroups : LogGroups.ofLogs logs = .ok groups)
    {octets : Bytes} {found : Option Transaction} :
    (∃ action, Action.ofBytes octets = .ok action ∧
      b.decodeAction (Hash.digest256 octets) action (groups.entries? (Hash.digest256 octets)) ctx =
        .ok found) ↔
      ∃ r : ActionReading b logs ctx, r.octets = octets ∧ r.transaction? = found := by
  have own := LogGroups.entries?_ofLogs hgroups (Hash.digest256 octets)
  constructor
  · rintro ⟨action, haction, h⟩
    obtain ⟨receipt, hreceipt, key, hkey, reconciled, hreconciled, hfound⟩ :=
      decodeAction_eq_ok.mp h
    obtain ⟨core, hcore⟩ := Reconciled.core_of_eq_ok hreconciled
    exact ⟨⟨octets, action, core, key, receipt, _, reconciled,
      haction, hcore, hkey, hreceipt, own, hreconciled⟩, rfl, hfound⟩
  · rintro ⟨r, rfl, hfound⟩
    have same : r.entries = groups.entries? (Hash.digest256 r.octets) :=
      Except.ok.inj (r.entries_eq.symm.trans own)
    exact ⟨r.action, r.action_eq, decodeAction_eq_ok.mpr
      ⟨r.receipt, r.receipt_eq, r.key, r.key_eq, r.reconciled, same ▸ r.reconciled_eq, hfound⟩⟩

theorem decode_steps {txs : List Transaction} :
    b.decode logs ctx = .ok txs ↔
      ∃ groups, LogGroups.ofLogs logs = .ok groups ∧
        (∀ hash ∈ logs.actionHashes, hash ∈ b.actions.map Hash.digest256) ∧
        ∃ found, (∃ actions, b.decodeActions = .ok actions ∧
          (actions.mapM fun a => b.decodeAction a.1 a.2 (groups.entries? a.1) ctx) = .ok found) ∧
          found.filterMap id = txs := by
  simp only [decode, bind_eq_ok, mapError_eq_ok]
  constructor
  · rintro ⟨actions, hactions, groups, hgroups, h⟩
    split at h
    · exact absurd h throw_ne_ok
    · rename_i complete
      rw [LogGroups.orphan?_eq_none hgroups, decodeActions_names hactions] at complete
      simp only [bind_eq_ok, pure_eq_ok] at h
      obtain ⟨found, hfound, rfl⟩ := h
      exact ⟨groups, hgroups, complete, found, ⟨actions, hactions, hfound⟩, rfl⟩
  · rintro ⟨groups, hgroups, complete, found, ⟨actions, hactions, hfound⟩, rfl⟩
    rw [← decodeActions_names hactions, ← LogGroups.orphan?_eq_none hgroups] at complete
    refine ⟨actions, hactions, groups, hgroups, ?_⟩
    simp only [complete, bind_eq_ok, pure_eq_ok]
    exact ⟨found, hfound, rfl⟩

/-- A block is decoded exactly when all of its log records can be read, each of them names one of
its actions, and each of its actions can be read alone. -/
theorem decode_eq_ok {txs : List Transaction} :
    b.decode logs ctx = .ok txs ↔
      (∃ entries, logs.entries = .ok entries) ∧
      (∀ hash ∈ logs.actionHashes, hash ∈ b.actions.map Hash.digest256) ∧
      ∃ readings : List (ActionReading b logs ctx), readings.map (·.octets) = b.actions ∧
        readings.filterMap (·.transaction?) = txs := by
  -- grouping the logs fails only when reading them does
  have grouped : (∃ groups, LogGroups.ofLogs logs = .ok groups) ↔
      ∃ entries, logs.entries = .ok entries := by
    simp only [LogGroups.ofLogs_eq_ok]
    exact ⟨fun ⟨_, entries, h, _⟩ => ⟨entries, h⟩, fun ⟨entries, h⟩ => ⟨_, entries, h, rfl⟩⟩
  have alone {groups : LogGroups} (hgroups : LogGroups.ofLogs logs = .ok groups)
      (found : List (Option Transaction)) :
      (∃ actions, b.decodeActions = .ok actions ∧
        (actions.mapM fun a => b.decodeAction a.1 a.2 (groups.entries? a.1) ctx) = .ok found) ↔
      ∃ readings : List (ActionReading b logs ctx), readings.map (·.octets) = b.actions ∧
        readings.map (·.transaction?) = found := by
    rw [← forall₂_views, decodeActions, mapM_mapM_eq_ok, mapM_eq_ok]
    simp only [← decodeAction_iff_reading hgroups, bind_eq_ok, mapError_eq_ok, pure_eq_ok,
      exists_exists_and_eq_and]
  rw [decode_steps, ← grouped]
  constructor
  · rintro ⟨groups, hgroups, complete, found, hfound, rfl⟩
    obtain ⟨readings, hactions, rfl⟩ := (alone hgroups found).mp hfound
    exact ⟨⟨groups, hgroups⟩, complete, readings, hactions, by simp [List.filterMap_map]⟩
  · rintro ⟨⟨groups, hgroups⟩, complete, readings, hactions, rfl⟩
    refine ⟨groups, hgroups, complete, _, (alone hgroups _).mpr ⟨readings, hactions, rfl⟩, ?_⟩
    simp [List.filterMap_map]

theorem decode_mem {txs : List Transaction} (h : b.decode logs ctx = .ok txs) {t : Transaction}
    (ht : t ∈ txs) :
    ∃ r : ActionReading b logs ctx, r.octets ∈ b.actions ∧ r.transaction? = some t := by
  obtain ⟨-, -, readings, hactions, rfl⟩ := decode_eq_ok.mp h
  obtain ⟨r, hr, shown⟩ := List.mem_filterMap.mp ht
  exact ⟨r, hactions ▸ List.mem_map_of_mem hr, shown⟩

/-- Every action of a decoded block was read alone. No entry of the logs is lost, is seen by
another action or changes its place, and an action is missing from the transactions only if it
has no posting. -/
theorem decode_readings {txs : List Transaction} (h : b.decode logs ctx = .ok txs) :
    ∃ readings : List (ActionReading b logs ctx),
      readings.map (·.octets) = b.actions ∧
      txs = readings.filterMap (·.transaction?) ∧
      (∃ entries, logs.entries = .ok entries ∧
        ∀ r ∈ readings, r.entries = if r.hash ∈ logs.actionHashes then
          some (entries.filter fun e => e.actionHash == r.hash) else none) ∧
      ∀ r ∈ readings, r.transaction? = none ↔ r.postings = [] := by
  obtain ⟨⟨entries, hentries⟩, -, readings, hactions, rfl⟩ := decode_eq_ok.mp h
  have grouping (r : ActionReading b logs ctx) : r.entries = if r.hash ∈ logs.actionHashes then
      some (entries.filter fun e => e.actionHash == r.hash) else none :=
    Except.ok.inj (r.entries_eq.symm.trans (TransferLogs.entriesOf?_eq r.hash hentries))
  exact ⟨readings, hactions, rfl, ⟨entries, hentries, fun r _ => grouping r⟩,
    fun r _ => r.transaction?_eq_none⟩

end RawBlock

/-! A block of three actions below the Pacific height. The first creates a contract and has no log
record, the second failed and has three records, one of them empty, and the third is a grant
without operations. -/

namespace Specimen

theorem generator_isPoint : Curve.IsPoint Curve.generator.1 Curve.generator.2 := by
  decide +kernel

def senderKey : Bytes := PublicKey.uncompressed ⟨_, _, generator_isPoint⟩

def octets (payload : Payload) : Bytes :=
  Action.encode { core := some { gasPrice := "3", payload := some payload }, senderKey }

def creation : Bytes := octets (.execution { amount := "7" })

def payment : Bytes := octets (.transfer { amount := "5" })

def grant : Bytes := octets (.grantReward {})

def receipt (octets : Bytes) (status : UInt64) : Receipt :=
  ⟨Hash.digest256 octets, status, 100, some Address.stakingPool⟩

def block : RawBlock :=
  { height := 10, hash := "", parentHash := "", timestamp := 0,
    actions := [creation, payment, grant],
    receipts := [receipt creation 1, receipt payment 0, receipt grant 1] }

def account : String := "0x0102030405060708090a0b0c0d0e0f1011121314"

def logs : TransferLogs := .transaction [
  ⟨Hash.digest256 payment, [⟨7, "5", account, account⟩]⟩,
  ⟨Hash.digest256 payment, []⟩,
  ⟨Hash.digest256 payment, [⟨6, "4", account, account⟩, ⟨7, "0", account, account⟩]⟩]

def amounts (t : Transaction) : List Int := t.operations.map fun op => op.amount.value

theorem decode_block : (block.decode logs {}).toOption.map
    (·.map fun t => (t.hash == ActionHash.text (Hash.digest256 payment), amounts t)) =
      some [(false, [-600, 300, -7, 7]), (true, [-4, 4])] := by
  decide +kernel

theorem block_named : ∃ txs, block.decode logs {} = .ok txs ∧
    txs.map (fun t => (t.hash == ActionHash.text (Hash.digest256 payment), amounts t)) =
      [(false, [-600, 300, -7, 7]), (true, [-4, 4])] :=
  exists_ok_of_toOption decode_block

theorem block_decoded :
    ∃ txs, block.decode logs {} = .ok txs ∧ txs.map amounts = [[-600, 300, -7, 7], [-4, 4]] := by
  obtain ⟨txs, decoded, named⟩ := block_named
  have shown := congrArg (List.map Prod.snd) named
  rw [List.map_map] at shown
  exact ⟨txs, decoded, shown⟩

theorem block_readings :
    ∃ txs, block.decode logs {} = .ok txs ∧ txs.map amounts = [[-600, 300, -7, 7], [-4, 4]] ∧
      ∃ readings : List (ActionReading block logs {}),
        readings.map (·.octets) = [creation, payment, grant] ∧
        txs = readings.filterMap (·.transaction?) ∧
        (∃ entries, logs.entries = .ok entries ∧
          ∀ r ∈ readings, r.entries = if r.hash ∈ logs.actionHashes then
            some (entries.filter fun e => e.actionHash == r.hash) else none) ∧
        ∀ r ∈ readings, r.transaction? = none ↔ r.postings = [] := by
  obtain ⟨txs, decoded, shown⟩ := block_decoded
  exact ⟨txs, decoded, shown, RawBlock.decode_readings decoded⟩

end Specimen

end LedgerGateway
