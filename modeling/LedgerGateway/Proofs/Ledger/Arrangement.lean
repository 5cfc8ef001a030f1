import Mathlib.Data.List.Forall2
import LedgerGateway.Proofs.Ledger.WellFormed

/-!
# The order of independent facts

A node may list receipts in any order, mix the log records of different actions, and mark a transfer
by its topic or by its number. What a block is decoded to depends on none of that: logs that tell
the same facts give every action the same entries (`SameFacts.interchangeable`), and receipts with
different names are found wherever they stand. Which fault of several is met first may differ;
whether there is one does not.
-/

namespace LedgerGateway

open Outcome

namespace TransferLogs

section
variable {μ : Type}

/-- Records may change places, but those of one action keep their order. -/
def Rearranged (records records' : List (LogRecord μ)) : Prop :=
  ∀ hash, (records.filter fun r => r.actionHash == hash) =
    records'.filter fun r => r.actionHash == hash

namespace Rearranged

variable {records records' : List (LogRecord μ)}

theorem mem_iff (h : Rearranged records records') (r : LogRecord μ) :
    r ∈ records ↔ r ∈ records' := by
  have own : (r ∈ records.filter fun s => s.actionHash == r.actionHash) ↔
      r ∈ records'.filter fun s => s.actionHash == r.actionHash := by rw [h r.actionHash]
  simpa only [List.mem_filter, beq_self_eq_true, and_true] using own

theorem mem_names_iff (h : Rearranged records records') (hash : ActionHash) :
    hash ∈ records.map (·.actionHash) ↔ hash ∈ records'.map (·.actionHash) := by
  simp only [List.mem_map, h.mem_iff]

/-- Two neighbours of different actions may change places. -/
theorem swap {r s : LogRecord μ} (apart : r.actionHash ≠ s.actionHash) (rest : List (LogRecord μ)) :
    Rearranged (r :: s :: rest) (s :: r :: rest) := by
  intro hash
  by_cases hr : r.actionHash = hash
  · have hs : s.actionHash ≠ hash := fun hs => apart (hr.trans hs.symm)
    simp [hr, hs]
  · simp [hr, List.filter_cons]

end Rearranged

end

/-- The topic and the number of one kind of transfer. -/
inductive SameMark : Bytes → Int → Prop
  | inContract : SameMark inContractTopic 0
  | withdraw : SameMark withdrawTopic 1

/-- One transfer in both shapes. -/
structure SameTransfer (t : LoggedTransfer Bytes) (t' : LoggedTransfer Int) : Prop where
  mark : SameMark t.mark t'.mark
  amount : t.amount = t'.amount
  sender : t.sender = t'.sender
  recipient : t.recipient = t'.recipient

/-- One record in both shapes. -/
structure SameRecord (r : LogRecord Bytes) (r' : LogRecord Int) : Prop where
  actionHash : r.actionHash = r'.actionHash
  transfers : List.Forall₂ SameTransfer r.transfers r'.transfers

/-- Two ways to tell the same facts. -/
inductive SameFacts : TransferLogs → TransferLogs → Prop
  | refl (logs : TransferLogs) : SameFacts logs logs
  | implicit {records records' : List (LogRecord Bytes)} (h : Rearranged records records') :
      SameFacts (.implicit records) (.implicit records')
  | transaction {records records' : List (LogRecord Int)} (h : Rearranged records records') :
      SameFacts (.transaction records) (.transaction records')
  | renumbered {records : List (LogRecord Bytes)} {records' : List (LogRecord Int)}
      (h : List.Forall₂ SameRecord records records') :
      SameFacts (.implicit records) (.transaction records')
  | trans {logs logs' logs'' : TransferLogs} (h : SameFacts logs logs')
      (h' : SameFacts logs' logs'') : SameFacts logs logs''

/-- Nothing that is read from the one logs is missed in the other. -/
structure Interchangeable (logs logs' : TransferLogs) : Prop where
  names : ∀ hash, hash ∈ logs.actionHashes ↔ hash ∈ logs'.actionHashes
  readable : logs.Readable ↔ logs'.Readable
  own : ∀ hash, (logs.only hash).entries = (logs'.only hash).entries

theorem SameMark.typeOf {topic : Bytes} {number : Int} (h : SameMark topic number) :
    typeOfTopic topic = typeOfNumber number := by
  cases h <;> decide

theorem SameRecord.transfers_read {r : LogRecord Bytes} {r' : LogRecord Int} (h : SameRecord r r') :
    r.transfers.mapM (readTransfer typeOfTopic r.actionHash) =
      r'.transfers.mapM (readTransfer typeOfNumber r'.actionHash) := by
  rw [h.actionHash]
  refine mapM_congr_forall₂ (h.transfers.imp fun t t' same => ?_)
  rw [readTransfer, readTransfer, same.sender, same.recipient, same.amount, same.mark.typeOf]

theorem readRecords_renumbered {records : List (LogRecord Bytes)} {records' : List (LogRecord Int)}
    (h : List.Forall₂ SameRecord records records') :
    readRecords typeOfTopic records = readRecords typeOfNumber records' := by
  rw [readRecords, readRecords, mapM_congr_forall₂ (h.imp fun _ _ => SameRecord.transfers_read)]

theorem names_renumbered {records : List (LogRecord Bytes)} {records' : List (LogRecord Int)}
    (h : List.Forall₂ SameRecord records records') :
    records.map (·.actionHash) = records'.map (·.actionHash) := by
  induction h with
  | nil => rfl
  | cons head _ ih => rw [List.map_cons, List.map_cons, head.actionHash, ih]

theorem filter_renumbered {records : List (LogRecord Bytes)} {records' : List (LogRecord Int)}
    (h : List.Forall₂ SameRecord records records') (hash : ActionHash) :
    List.Forall₂ SameRecord (records.filter fun r => r.actionHash == hash)
      (records'.filter fun r => r.actionHash == hash) :=
  List.rel_filter (fun _ _ same => by simp only [same.actionHash]) h

theorem SameFacts.interchangeable {logs logs' : TransferLogs} (h : SameFacts logs logs') :
    Interchangeable logs logs' := by
  induction h with
  | refl logs => exact ⟨fun _ => .rfl, .rfl, fun _ => rfl⟩
  | implicit h | transaction h =>
    refine ⟨h.mem_names_iff, ?_, fun hash => ?_⟩
    · simp only [Readable, h.mem_iff]
    · simp only [only, h hash]
  | renumbered h =>
    refine ⟨fun hash => ?_, ?_, fun hash => readRecords_renumbered (filter_renumbered h hash)⟩
    · simp only [actionHashes, names_renumbered h]
    · simp only [← entries_succeeds, entries, readRecords_renumbered h]
  | trans _ _ ih ih' =>
    exact ⟨fun hash => (ih.names hash).trans (ih'.names hash), ih.readable.trans ih'.readable,
      fun hash => (ih.own hash).trans (ih'.own hash)⟩

theorem Interchangeable.symm {logs logs' : TransferLogs} (h : Interchangeable logs logs') :
    Interchangeable logs' logs :=
  ⟨fun hash => (h.names hash).symm, h.readable.symm, fun hash => (h.own hash).symm⟩

theorem Interchangeable.entriesOf? {logs logs' : TransferLogs} (h : Interchangeable logs logs')
    (hash : ActionHash) : logs.entriesOf? hash = logs'.entriesOf? hash := by
  simp only [TransferLogs.entriesOf?, h.names, h.own]

end TransferLogs

namespace RawBlock

variable {b : RawBlock} {receipts : List Receipt} {logs logs' : TransferLogs} {ctx : LedgerContext}

/-- Receipts with different names are found wherever they stand. -/
theorem lastReceipt?_perm (distinct : (b.receipts.map (·.actionHash)).Nodup)
    (perm : b.receipts.Perm receipts) (hash : ActionHash) :
    b.lastReceipt? hash = { b with receipts }.lastReceipt? hash := by
  have few : (b.receipts.filter fun r => r.actionHash == hash).length ≤ 1 := by
    have once := List.nodup_iff_count.mp distinct hash
    rwa [List.count, List.countP_map, List.countP_eq_length_filter] at once
  have own := perm.filter fun r => r.actionHash == hash
  rw [lastReceipt?, lastReceipt?]
  generalize (b.receipts.filter fun r => r.actionHash == hash) = found at few own ⊢
  rcases found with _ | ⟨r, _ | ⟨r', more⟩⟩
  · rw [List.nil_perm.mp own]
  · rw [List.singleton_perm.mp own]
  · exact absurd few (by simp)

/-- Whoever finds the same receipts and the same entries reads the same of an action. -/
theorem reading_transported (found : ∀ hash,
      b.lastReceipt? hash = { b with receipts }.lastReceipt? hash)
    (same : logs.Interchangeable logs') (r : ActionReading b logs ctx) :
    ∃ r' : ActionReading { b with receipts } logs' ctx, r'.octets = r.octets ∧
      r'.transaction? = r.transaction? :=
  ⟨{ r with
      receipt_eq := (found _).symm.trans r.receipt_eq
      entries_eq := (same.entriesOf? _).symm.trans r.entries_eq }, rfl, rfl⟩

theorem decode_transported (found : ∀ hash,
      b.lastReceipt? hash = { b with receipts }.lastReceipt? hash)
    (same : logs.Interchangeable logs') {txs : List Transaction} (h : b.decode logs ctx = .ok txs) :
    { b with receipts }.decode logs' ctx = .ok txs := by
  obtain ⟨readable, complete, readings, hactions, rfl⟩ := decode_eq_ok.mp h
  have moved (r : ActionReading b logs ctx) := reading_transported found same r
  choose move octets shown using moved
  refine decode_eq_ok.mpr ⟨?_, ?_, readings.map move, ?_, ?_⟩
  · exact TransferLogs.entries_succeeds.mpr
      (same.readable.mp (TransferLogs.entries_succeeds.mp readable))
  · exact fun hash named => complete hash ((same.names hash).mpr named)
  · simp only [List.map_map, Function.comp_def, octets, hactions]
  · simp only [List.filterMap_map, Function.comp_def, shown]

/-- A block with distinct receipts is decoded to the same transactions, or is refused, in whatever
order the receipts and the log records of different actions come, and whether transfers are marked
by topics or by numbers. -/
theorem decode_of_sameFacts (distinct : (b.receipts.map (·.actionHash)).Nodup)
    (perm : b.receipts.Perm receipts) (same : logs.SameFacts logs') (ctx : LedgerContext) :
    (b.decode logs ctx).toOption = ({ b with receipts }.decode logs' ctx).toOption := by
  have found := lastReceipt?_perm distinct perm
  have both := same.interchangeable
  have forth {txs : List Transaction} (h : b.decode logs ctx = .ok txs) :
      { b with receipts }.decode logs' ctx = .ok txs := decode_transported found both h
  have back {txs : List Transaction} (h : { b with receipts }.decode logs' ctx = .ok txs) :
      b.decode logs ctx = .ok txs := decode_transported (fun hash => (found hash).symm) both.symm h
  cases first : b.decode logs ctx with
  | ok txs => rw [forth first]
  | error e =>
    cases second : { b with receipts }.decode logs' ctx with
    | ok txs => cases first.symm.trans (back second)
    | error e' => rfl

end RawBlock

/-! The block of three actions again. Its logs come from an older node, which puts the record of the
payment between two records of the creation. -/

namespace Specimen

def olderLogs : TransferLogs := .implicit [
  ⟨Hash.digest256 creation, [⟨TransferLogs.inContractTopic, "5", account, account⟩]⟩,
  ⟨Hash.digest256 payment, []⟩,
  ⟨Hash.digest256 creation, [⟨TransferLogs.withdrawTopic, "4", account, account⟩]⟩]

def newerLogs : TransferLogs := .transaction [
  ⟨Hash.digest256 payment, []⟩,
  ⟨Hash.digest256 creation, [⟨0, "5", account, account⟩]⟩,
  ⟨Hash.digest256 creation, [⟨1, "4", account, account⟩]⟩]

theorem decode_olderLogs : ([creation, payment, grant].map Hash.digest256).Nodup ∧
    (block.decode olderLogs {}).toOption.map (·.map amounts) =
      some [[-600, 300, -5, 5, -4, 4], [-300, 300]] := by
  decide +kernel

theorem block_rearranged :
    (RawBlock.decode { block with receipts := block.receipts.reverse } newerLogs {}).toOption.map
      (·.map amounts) =
      some [[-600, 300, -5, 5, -4, 4], [-300, 300]] := by
  obtain ⟨distinct, decoded⟩ := decode_olderLogs
  have apart : Hash.digest256 creation ≠ Hash.digest256 payment := by
    obtain ⟨other, -⟩ := List.nodup_cons.mp distinct
    exact fun same => other (List.mem_cons.mpr (.inl same))
  have first : TransferLogs.SameTransfer ⟨TransferLogs.inContractTopic, "5", account, account⟩
      ⟨0, "5", account, account⟩ := ⟨.inContract, rfl, rfl, rfl⟩
  have second : TransferLogs.SameTransfer ⟨TransferLogs.withdrawTopic, "4", account, account⟩
      ⟨1, "4", account, account⟩ := ⟨.withdraw, rfl, rfl, rfl⟩
  have same : olderLogs.SameFacts newerLogs :=
    .trans (.implicit (.swap apart _)) (.renumbered
      (.cons ⟨rfl, .nil⟩ (.cons ⟨rfl, .cons first .nil⟩ (.cons ⟨rfl, .cons second .nil⟩ .nil))))
  have both := RawBlock.decode_of_sameFacts (b := block) distinct (List.reverse_perm _).symm same {}
  rw [← both]
  exact decoded

end Specimen

end LedgerGateway
