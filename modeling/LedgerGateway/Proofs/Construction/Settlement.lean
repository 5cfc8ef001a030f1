import LedgerGateway.Proofs.Construction.Signed
import LedgerGateway.Proofs.Ledger.ActionReading

/-!
# Constructed transfers in a block

A transfer that was built, signed and put into a block is shown as it was meant: under the name that
its signer was told, with the fee at the price that its signer offered, and, if it succeeded, with
the two operations that parsing told before it was sent. The block is read by other code than the
transfer was built by; what both share is only the octets.
-/

namespace LedgerGateway

open Outcome

/-- An operation as a block shows it once it was executed, behind `offset` others. -/
def Operation.executed (offset : Nat) (o : Operation) : Operation :=
  { o with index := o.index + .ofNat offset, related := o.related.map fun i => i + .ofNat offset,
           status := some .success }

namespace TransferPair

/-- The posting of an executed transfer shows the operations that it was asked for with. -/
theorem executed_operations (pair : TransferPair) (currency : Currency) (offset : Nat) :
    (pair.operations currency).map (Operation.executed offset) =
      (Posting.balanced .nativeTransfer pair.sender pair.recipient pair.amount).operations offset
        currency := by
  have next : (1 : UInt64) + .ofNat offset = .ofNat (offset + 1) := by
    rw [UInt64.add_comm, UInt64.ofNat_add]
    rfl
  simp only [operations, List.map_cons, List.map_nil, Operation.executed, Posting.operations,
    Posting.balanced, UInt64.zero_add, next]

/-- What a block shows of a transfer: its fee, unless it is zero, and behind it the operations that
were asked for, unless it failed or moves nothing. -/
def shown (pair : TransferPair) (asked : List Operation) (fee : Nat) (success : Bool)
    (ctx : LedgerContext) : List Operation :=
  let fees := if fee = 0 then [] else
    (Posting.balanced .gasFee pair.sender ctx.pools.rewarding fee).operations 0 ctx.currency
  fees ++
    if success = true ∧ pair.amount ≠ 0 then asked.map (Operation.executed fees.length) else []

end TransferPair

namespace Reconciled

variable {pair : TransferPair} {p : ActionParameters} {chainId : UInt32} {action : Action}
  {receipt : Receipt} {height : UInt64} {ctx : LedgerContext} {r : Reconciled}

/-- The fee of a transfer, none if it is zero. -/
def transferFees (pair : TransferPair) (p : ActionParameters) (receipt : Receipt)
    (ctx : LedgerContext) : List Posting :=
  let fee := p.gasPrice.toNat * receipt.gasConsumed.toNat
  if fee = 0 then [] else [.balanced .gasFee pair.sender ctx.pools.rewarding fee]

/-- What a transfer moves, nothing if it failed or its amount is zero. -/
def transferPrincipal (pair : TransferPair) (receipt : Receipt) : List Posting :=
  if receipt.isSuccess ∧ pair.amount ≠ 0 then
    [.balanced .nativeTransfer pair.sender pair.recipient pair.amount] else []

/-- A transfer is no execution, and so its fee is charged once at any height. -/
theorem fee_transfer {fee : Option Posting}
    (h : Fee.ofCore (UnsignedTransaction.core pair p chainId) pair.sender receipt height ctx =
      .ok fee) : fee.toList = transferFees pair p receipt ctx := by
  have price : Decimal.nat? (UnsignedTransaction.core pair p chainId).gasPrice.toList =
      some p.gasPrice.toNat := by
    have text : (UnsignedTransaction.core pair p chainId).gasPrice.toList =
        Decimal.digits p.gasPrice.toNat :=
      String.toList_ofList
    rw [text, Decimal.nat?_digits]
  have charge : Fee.charge (UnsignedTransaction.core pair p chainId) receipt =
      p.gasPrice.toNat * receipt.gasConsumed.toNat := by
    rw [Fee.charge, price, Option.getD_some]
  have once : ¬ Fee.ChargedTwice (UnsignedTransaction.core pair p chainId) height ctx := by
    rintro ⟨⟨⟩, -⟩
  rw [Fee.ofCore_once once h, charge]
  rfl

theorem movement_transfer {moved : Option Movement}
    (carried : action.core = some (UnsignedTransaction.core pair p chainId))
    (h : Movement.ofAction action receipt ctx.pools = .ok moved) :
    moved = if pair.amount = 0 then none
      else some ⟨.nativeTransfer, pair.amount, pair.recipient, true⟩ := by
  have named : (UnsignedTransaction.core pair p chainId).payload.bind Movement.ofPayload? =
      some (.nativeTransfer, Decimal.natText pair.amount, .account pair.recipient.text) := rfl
  obtain ⟨amount, hamount, outcome⟩ := (Movement.ofAction_eq_ok carried named).mp h
  rw [Decimal.natText, String.toList_ofList, Decimal.nat?_digits] at hamount
  obtain rfl := Option.some.inj hamount
  obtain ⟨zero, rfl⟩ | ⟨moves, account, haccount, rfl⟩ := outcome
  · rw [if_pos zero]
  · have recipient :
        Movement.Counterparty.address receipt ctx.pools (.account pair.recipient.text) =
        .ok pair.recipient := mapError_eq_ok.mpr (readAddress_text pair.recipient)
    obtain rfl := Except.ok.inj (recipient.symm.trans haccount)
    rw [if_neg moves]
    rfl

theorem ofAction_transfer (carried : action.core = some (UnsignedTransaction.core pair p chainId))
    (h : ofAction action pair.sender receipt height none ctx = .ok r) :
    r = ⟨transferFees pair p receipt ctx, transferPrincipal pair receipt⟩ := by
  obtain ⟨grant, -⟩ | ⟨-, fee, hfee, moved, hmoved, rfl⟩ :=
    withoutLogs_eq_ok.mp ((ofAction_eq_ok carried).mp h)
  · cases grant
  · rw [fee_transfer hfee, transferPrincipal]
    by_cases success : receipt.isSuccess = true
    · rw [if_pos success] at hmoved
      rw [movement_transfer carried hmoved]
      by_cases zero : pair.amount = 0
      · simp [zero]
      · simp [zero, success, Movement.posting]
    · rw [if_neg success] at hmoved
      obtain rfl := Except.ok.inj hmoved
      simp [success]

theorem listOperations_transfer (pair : TransferPair) (p : ActionParameters) (receipt : Receipt)
    (ctx : LedgerContext) :
    Posting.listOperations ctx.currency 0
        (transferFees pair p receipt ctx ++ transferPrincipal pair receipt) =
      pair.shown (pair.operations ctx.currency) (p.gasPrice.toNat * receipt.gasConsumed.toNat)
        receipt.isSuccess ctx := by
  have fees : Posting.listOperations ctx.currency 0 (transferFees pair p receipt ctx) =
      if p.gasPrice.toNat * receipt.gasConsumed.toNat = 0 then [] else
        (Posting.balanced .gasFee pair.sender ctx.pools.rewarding
          (p.gasPrice.toNat * receipt.gasConsumed.toNat)).operations 0 ctx.currency := by
    unfold transferFees
    split <;> simp [Posting.listOperations, *]
  have moved (offset : Nat) :
      Posting.listOperations ctx.currency offset (transferPrincipal pair receipt) =
      if receipt.isSuccess ∧ pair.amount ≠ 0 then
        (pair.operations ctx.currency).map (Operation.executed offset) else [] := by
    unfold transferPrincipal
    split
    · exact (List.append_nil _).trans (pair.executed_operations ctx.currency offset).symm
    · rfl
  rw [Posting.listOperations_append, moved, Nat.zero_add, ← Posting.length_listOperations, fees]
  rfl

end Reconciled

namespace ActionReading

variable {b : RawBlock} {logs : TransferLogs} {ctx : LedgerContext}

/-- A reading shows its operations unless there are none. -/
theorem transaction?_eq_operations (r : ActionReading b logs ctx) :
    r.transaction? = if Posting.listOperations ctx.currency 0 r.postings = [] then none
      else some ⟨r.hash.text, Posting.listOperations ctx.currency 0 r.postings⟩ := by
  have empty : Posting.listOperations ctx.currency 0 r.postings = [] ↔
      r.postings.isEmpty = true := by
    rw [← List.length_eq_zero_iff, Posting.length_listOperations, List.isEmpty_iff,
      ← List.length_eq_zero_iff]
    omega
  simp only [r.transaction?_eq, empty]

end ActionReading

namespace SignedTransaction

/-- A signature over a transfer that was built here leaves its core and its sender as they were. -/
theorem combine_ofPair {pair : TransferPair} {p : ActionParameters} {chainId : UInt32}
    {creq : CombineRequest} {signed : String}
    (same : creq.transaction = (UnsignedTransaction.ofPair pair p chainId).transaction)
    (h : combine creq = .ok signed) :
    (UnsignedTransaction.core pair p chainId).encode.length < UInt64.size ∧
      ∃ (key : PublicKey) (sig : Signature), Address.ofKey key = pair.sender ∧
        sig.recovery.val ≤ 1 ∧
        sig.verify (UnsignedTransaction.core pair p chainId).signingDigest key = true ∧
        ((UnsignedTransaction.core pair p chainId).signed key sig.bytes).toHex = signed := by
  obtain ⟨s, -, unsigned, hunsigned, core, hcore, sender, hsender, key, sig, hsig, rfl⟩ :=
    combine_eq_ok.mp h
  rw [same] at hunsigned
  have sized : (UnsignedTransaction.core pair p chainId).encode.length < UInt64.size :=
    UnsignedAction.length_core_of_ofHex hunsigned
  obtain rfl := Except.ok.inj
    (hunsigned.symm.trans (UnsignedAction.ofHex_toHex sized (Address.length_text pair.sender)))
  obtain rfl := Except.ok.inj (hcore.symm.trans (ActionCore.decode_encode sized))
  obtain rfl := Except.ok.inj (hsender.symm.trans (readAddress_text pair.sender))
  obtain ⟨-, own, octets, -, accepted⟩ := readSignature_eq_ok.mp hsig
  obtain ⟨bit, good⟩ := Signature.ofBytesForSigner_eq_ok accepted
  exact ⟨sized, key, sig, own, bit, good, rfl⟩

/-- What a block reads of a signed transfer that has no log record. -/
theorem reading_signed {pair : TransferPair} {p : ActionParameters} {chainId : UInt32}
    {key : PublicKey} {sig : Signature}
    (sized : (UnsignedTransaction.core pair p chainId).encode.length < UInt64.size)
    (own : Address.ofKey key = pair.sender) {b : RawBlock} {logs : TransferLogs}
    {ctx : LedgerContext} {receipt : Receipt} (r : ActionReading b logs ctx)
    (octets : r.octets = ((UnsignedTransaction.core pair p chainId).signed key sig.bytes).encode)
    (unlogged : r.hash ∉ logs.actionHashes) (received : b.lastReceipt? r.hash = some receipt) :
    r.receipt = receipt ∧
      r.reconciled = ⟨Reconciled.transferFees pair p receipt ctx,
        Reconciled.transferPrincipal pair receipt⟩ := by
  have action : r.action = (UnsignedTransaction.core pair p chainId).signed key sig.bytes := by
    have read := ofHex_signed key sig sized
    rw [Action.ofHex_toHex_eq, ← octets] at read
    exact Except.ok.inj (r.action_eq.symm.trans read)
  have signer : r.key = key := by
    have read := r.key_eq
    rw [action] at read
    exact Except.ok.inj (read.symm.trans (PublicKey.ofBytes_uncompressed key))
  have entries : r.entries = none := Except.ok.inj (r.entries_eq.symm.trans (if_neg unlogged))
  obtain rfl : r.receipt = receipt := Option.some.inj (r.receipt_eq.symm.trans received)
  have reconciled := r.reconciled_eq
  rw [action, signer, entries, own] at reconciled
  exact ⟨rfl, Reconciled.ofAction_transfer rfl reconciled⟩

/-- What a block shows of a signed transfer that has no log record. -/
theorem transaction?_signed {pair : TransferPair} {p : ActionParameters} {chainId : UInt32}
    {key : PublicKey} {sig : Signature}
    (sized : (UnsignedTransaction.core pair p chainId).encode.length < UInt64.size)
    (own : Address.ofKey key = pair.sender) {b : RawBlock} {logs : TransferLogs}
    {ctx : LedgerContext} {receipt : Receipt} (r : ActionReading b logs ctx)
    (octets : r.octets = ((UnsignedTransaction.core pair p chainId).signed key sig.bytes).encode)
    (unlogged : r.hash ∉ logs.actionHashes) (received : b.lastReceipt? r.hash = some receipt) :
    let operations := pair.shown (pair.operations ctx.currency)
      (p.gasPrice.toNat * receipt.gasConsumed.toNat) receipt.isSuccess ctx
    r.transaction? = if operations = [] then none else some ⟨r.hash.text, operations⟩ := by
  obtain ⟨rfl, reconciled⟩ := reading_signed sized own r octets unlogged received
  have postings : r.postings = Reconciled.transferFees pair p r.receipt ctx ++
      Reconciled.transferPrincipal pair r.receipt := by
    rw [ActionReading.postings, reconciled, Reconciled.transferPrincipal]
    cases r.receipt.isSuccess <;> simp
  rw [r.transaction?_eq_operations, postings, Reconciled.listOperations_transfer]

/-- The path of a transfer ends where it began. The transaction that a block shows for it bears the
name that its signer was told. It holds the fee and then the two operations that parsing told, but
no fee of zero, and no operations of a transfer that failed or that moves nothing; where neither is
left, the block shows no transaction. -/
theorem settled {req : PayloadsRequest} {ctx : ConstructionContext} {u : UnsignedTransaction}
    (built : UnsignedTransaction.ofRequest req ctx = .ok u) {creq : CombineRequest}
    (same : creq.transaction = u.transaction) {signed : String}
    (combined : combine creq = .ok signed) {octets : Bytes}
    (written : Hex.decode signed = .ok octets) {b : RawBlock} {logs : TransferLogs}
    {lctx : LedgerContext} (currency : lctx.currency = ctx.currency) (inside : octets ∈ b.actions)
    (unlogged : Hash.digest256 octets ∉ logs.actionHashes) {receipt : Receipt}
    (received : b.lastReceipt? (Hash.digest256 octets) = some receipt) {txs : List Transaction}
    (decoded : b.decode logs lctx = .ok txs) :
    ∃ pair name parsed, TransferPair.ofOperations ctx.currency req.operations = .ok pair ∧
      hash signed = .ok name ∧
      ParsedTransaction.ofRequest ⟨true, signed⟩ ctx.currency = .ok parsed ∧
      let operations := pair.shown parsed.operations
        (req.parameters.gasPrice.toNat * receipt.gasConsumed.toNat) receipt.isSuccess lctx
      (operations ≠ [] → ⟨name, operations⟩ ∈ txs) ∧
      ∃ readings : List (ActionReading b logs lctx), readings.map (·.octets) = b.actions ∧
        txs = readings.filterMap (·.transaction?) ∧
        ∀ r ∈ readings, r.octets = octets →
          r.transaction? = if operations = [] then none else some ⟨name, operations⟩ := by
  obtain ⟨pair, hpair, -, rfl⟩ := UnsignedTransaction.ofRequest_eq_ok.mp built
  obtain ⟨sized, key, sig, own, bit, good, rfl⟩ := combine_ofPair same combined
  obtain rfl := Except.ok.inj ((Hex.decode_encode _).symm.trans written)
  obtain ⟨-, -, readings, hactions, rfl⟩ := RawBlock.decode_eq_ok.mp decoded
  have named := hash_of_ofHex (ofHex_signed key sig sized)
  have told :=
    (ParsedTransaction.ofRequest_signed (readSigned_signed sized bit good) ctx.currency).trans
      (own ▸ ParsedTransaction.ofCore_transfer _ pair req.parameters ctx.chainId ctx.currency)
  -- all readings of these octets show the same, and there is one
  have shown (r : ActionReading b logs lctx)
      (hr : r.octets =
        ((UnsignedTransaction.core pair req.parameters ctx.chainId).signed key sig.bytes).encode) :
      let operations := pair.shown (pair.operations ctx.currency)
        (req.parameters.gasPrice.toNat * receipt.gasConsumed.toNat) receipt.isSuccess lctx
      r.transaction? = if operations = [] then none else
        some ⟨ActionHash.text
          ((UnsignedTransaction.core pair req.parameters ctx.chainId).signed key sig.bytes).hash,
          operations⟩ := by
    have hhash : r.hash =
        ((UnsignedTransaction.core pair req.parameters ctx.chainId).signed key sig.bytes).hash :=
      congrArg Hash.digest256 hr
    have read := transaction?_signed sized own r hr (by rw [hhash]; exact unlogged)
      (by rw [hhash]; exact received)
    rwa [currency, hhash] at read
  refine ⟨pair, _, _, hpair, named, told, fun moves => ?_, readings, hactions, rfl,
    fun r _ hr => shown r hr⟩
  obtain ⟨r, hr, own⟩ := List.mem_map.mp (hactions ▸ inside)
  exact List.mem_filterMap.mpr ⟨r, hr, (shown r own).trans (if_neg moves)⟩

end SignedTransaction

/-! The signed transfer in a block of its own. -/

namespace Specimen

def signedOctets : Bytes := (core.signed signer signature.bytes).encode

def signerOrder : PayloadsRequest where
  operations := signerTransfer.operations .native
  parameters := order.parameters
  keys := [signatureText.key]

def settledReceipt : Receipt := ⟨Hash.digest256 signedOctets, 1, 100, none⟩

def settledBlock : RawBlock :=
  { height := 10, hash := "", parentHash := "", timestamp := 0, actions := [signedOctets],
    receipts := [settledReceipt] }

theorem signerOrder_key :
    UnsignedTransaction.requireKey signerTransfer.sender signerOrder.keys = .ok () := by
  have address : signatureText.key.address = .ok (Address.ofKey signer) :=
    bind_eq_ok.mpr ⟨signer, KeyText.read_uncompressed signer, rfl⟩
  exact bind_eq_ok.mpr ⟨_, address, if_pos rfl⟩

theorem signerOrder_accepted : UnsignedTransaction.ofRequest signerOrder {} =
    .ok (.ofPair signerTransfer order.parameters 1) :=
  UnsignedTransaction.ofRequest_eq_ok.mpr
    ⟨signerTransfer, TransferPair.ofOperations_operations signerTransfer .native,
      signerOrder_key, rfl⟩

theorem settledBlock_decodes : ∃ txs, settledBlock.decode .unavailable {} = .ok txs := by
  have decodes : (settledBlock.decode .unavailable {}).toOption.map (fun _ => ()) = some () := by
    decide +kernel
  obtain ⟨txs, decoded, -⟩ := exists_ok_of_toOption decodes
  exact ⟨txs, decoded⟩

theorem settledBlock_receipt :
    settledBlock.lastReceipt? (Hash.digest256 signedOctets) = some settledReceipt := by
  simp [RawBlock.lastReceipt?, settledBlock, settledReceipt]

theorem settledBlock_shows : ∃ txs, settledBlock.decode .unavailable {} = .ok txs ∧
    ∃ t ∈ txs, SignedTransaction.hash signed = .ok t.hash ∧
      amounts t = [-300, 300, -1000, 1000] := by
  obtain ⟨txs, decoded⟩ := settledBlock_decodes
  obtain ⟨pair, name, parsed, hpair, hname, told, moves, -⟩ :=
    SignedTransaction.settled signerOrder_accepted rfl signing_combined (Hex.decode_encode _) rfl
      List.mem_cons_self List.not_mem_nil settledBlock_receipt decoded
  obtain rfl :=
    Except.ok.inj ((TransferPair.ofOperations_operations signerTransfer .native).symm.trans hpair)
  obtain rfl := Except.ok.inj (signed_parsed.symm.trans told)
  have moved : (signerTransfer.shown (signerTransfer.operations .native)
        (signerOrder.parameters.gasPrice.toNat * settledReceipt.gasConsumed.toNat)
        settledReceipt.isSuccess {}).map (fun op => op.amount.value) =
      [-300, 300, -1000, 1000] := by
    decide
  exact ⟨txs, decoded, _, moves (by intro empty; simp [empty] at moved), hname, moved⟩

end Specimen

end LedgerGateway
