import Mathlib.Data.List.Nodup
import LedgerGateway.Ledger.Fetch
import LedgerGateway.Proofs.Bytes.Hex
import LedgerGateway.Proofs.Ledger.ActionReading
import LedgerGateway.Proofs.Node

/-!
# Looking up one transaction

A single transaction is looked up without its block: the action is searched by its name, and the
node is asked for the log records of that action alone. What is found is what the whole block shows
under the name, provided that the node says the same about an action as about its block
(`Responder.Serves`).
-/

namespace LedgerGateway

open Outcome

namespace TransferLogs

/-- What a node may answer about one action: the records that name it, and no record at all
if none does. -/
structure TellsOf (own logs : TransferLogs) (hash : ActionHash) : Prop where
  named : hash ∈ logs.actionHashes → own = logs.only hash
  unnamed : hash ∉ logs.actionHashes → own.actionHashes = []

variable {own logs : TransferLogs} {hash : ActionHash}

theorem entries_of_unnamed (h : own.actionHashes = []) : own.entries = .ok [] := by
  cases own with
  | unavailable => rfl
  | implicit records => rw [List.map_eq_nil_iff.mp h]; rfl
  | transaction records => rw [List.map_eq_nil_iff.mp h]; rfl

theorem actionHashes_only (logs : TransferLogs) (hash : ActionHash) :
    (logs.only hash).actionHashes = logs.actionHashes.filter (· == hash) := by
  cases logs with
  | unavailable => rfl
  | implicit records => simp only [only, actionHashes, List.filter_map, Function.comp_def]
  | transaction records => simp only [only, actionHashes, List.filter_map, Function.comp_def]

theorem TellsOf.actionHashes (h : own.TellsOf logs hash) : ∀ k ∈ own.actionHashes, k = hash := by
  intro k hk
  by_cases named : hash ∈ logs.actionHashes
  · rw [h.named named, actionHashes_only, List.mem_filter] at hk
    exact eq_of_beq hk.2
  · rw [h.unnamed named] at hk
    cases hk

theorem only_tellsOf (logs : TransferLogs) (hash : ActionHash) :
    (logs.only hash).TellsOf logs hash where
  named := fun _ => rfl
  unnamed := by
    intro unnamed
    rw [actionHashes_only, List.filter_eq_nil_iff]
    intro k hk same
    exact unnamed (eq_of_beq same ▸ hk)

/-- The answer about one action can be read when the block's logs can, and it lists the same
for the action. -/
theorem TellsOf.entries {entries : List LogEntry} (h : own.TellsOf logs hash)
    (read : logs.entries = .ok entries) :
    (∃ listed, own.entries = .ok listed) ∧ own.entriesOf? hash = logs.entriesOf? hash := by
  by_cases named : hash ∈ logs.actionHashes
  · have listed := entries_only hash read
    have still : hash ∈ (logs.only hash).actionHashes := by
      rw [actionHashes_only]
      exact List.mem_filter.mpr ⟨named, beq_self_eq_true hash⟩
    rw [h.named named]
    refine ⟨⟨_, listed⟩, ?_⟩
    rw [entriesOf?_eq hash listed, entriesOf?_eq hash read, if_pos still, if_pos named,
      List.filter_filter]
    simp only [Bool.and_self]
  · have none := h.unnamed named
    refine ⟨⟨[], entries_of_unnamed none⟩, ?_⟩
    rw [entriesOf?, entriesOf?, if_neg named, none, if_neg List.not_mem_nil]

end TransferLogs

theorem LogGroups.ofLogs_tellsOf {own logs : TransferLogs} {hash : ActionHash}
    {entries : List LogEntry} (h : own.TellsOf logs hash) (read : logs.entries = .ok entries) :
    ∃ groups, ofLogs own = .ok groups ∧ groups.orphan? [hash] = none ∧
      logs.entriesOf? hash = .ok (groups.entries? hash) := by
  obtain ⟨⟨listed, hlisted⟩, same⟩ := h.entries read
  have grouped : ∃ groups, ofLogs own = .ok groups := ⟨_, ofLogs_eq_ok.mpr ⟨listed, hlisted, rfl⟩⟩
  obtain ⟨groups, hgroups⟩ := grouped
  refine ⟨groups, hgroups, (orphan?_eq_none hgroups [hash]).mpr ?_,
    same ▸ entries?_ofLogs hgroups hash⟩
  intro k hk
  exact List.mem_singleton.mpr (h.actionHashes k hk)

/-- The node answers with a block and its logs, and about each action of the block it says the
same as the logs. -/
structure Responder.Serves (node : Responder) (height : UInt64) (b : RawBlock)
    (logs : TransferLogs) : Prop where
  block_eq : node (.rawBlock height) = .ok b
  logs_eq : node (.transferLogs height) = .ok logs
  logsOf : ∀ octets ∈ b.actions, ∃ own,
    node (.transferLogOf (Hash.digest256 octets)) = .ok own ∧
      own.TellsOf logs (Hash.digest256 octets)

/-- All actions of a block with this name are one and the same. It fails only where two texts
have one digest. -/
def RawBlock.NamesOne (b : RawBlock) (hash : ActionHash) : Prop :=
  ∀ a ∈ b.actions, ∀ a' ∈ b.actions, Hash.digest256 a = hash → Hash.digest256 a' = hash → a = a'

theorem RawBlock.namesOne_of_nodup {b : RawBlock} (h : (b.actions.map Hash.digest256).Nodup)
    (hash : ActionHash) : b.NamesOne hash :=
  fun _ ha _ ha' named named' => List.inj_on_of_nodup_map h ha ha' (named.trans named'.symm)

theorem ActionHash.ofText_text (h : ActionHash) : ofText h.text = .ok h := by
  rw [ofText, text, Hex.withoutMark_encode, Hex.decode_encode]
  simp only [Except.toOption, Option.bind_some, Octets.ofBytes?_bytes]

theorem ActionHash.text_injective {h h' : ActionHash} (same : h.text = h'.text) : h = h' :=
  Octets.ext_bytes (Hex.encode_injective same)

namespace ActionReading

variable {b : RawBlock} {logs : TransferLogs} {ctx : LedgerContext}

/-- Nothing about a reading is left open once the octets are known. -/
theorem eq_of_octets {r r' : ActionReading b logs ctx} (h : r.octets = r'.octets) : r = r' := by
  obtain ⟨octets, action, core, key, receipt, entries, reconciled, haction, hcore, hkey, hreceipt,
    hentries, hrec⟩ := r
  obtain ⟨octets', action', core', key', receipt', entries', reconciled', haction', hcore', hkey',
    hreceipt', hentries', hrec'⟩ := r'
  obtain rfl : octets = octets' := h
  obtain rfl := Except.ok.inj (haction.symm.trans haction')
  obtain rfl := Option.some.inj (hcore.symm.trans hcore')
  obtain rfl := Except.ok.inj (hkey.symm.trans hkey')
  obtain rfl := Option.some.inj (hreceipt.symm.trans hreceipt')
  obtain rfl := Except.ok.inj (hentries.symm.trans hentries')
  obtain rfl := Except.ok.inj (hrec.symm.trans hrec')
  rfl

theorem decodeActions {readings : List (ActionReading b logs ctx)}
    (h : readings.map (·.octets) = b.actions) :
    b.decodeActions = .ok (readings.map fun r => (r.hash, r.action)) := by
  rw [RawBlock.decodeActions, ← h, mapM_eq_ok, List.forall₂_map_left_iff,
    List.forall₂_map_right_iff, List.forall₂_same]
  intro r _
  simp only [bind_eq_ok, mapError_eq_ok, pure_eq_ok]
  exact ⟨r.action, r.action_eq, rfl⟩

theorem hash_of_transaction? {r : ActionReading b logs ctx} {t : Transaction}
    (h : r.transaction? = some t) : t.hash = r.hash.text := by
  obtain ⟨-, rfl⟩ := transaction?_eq_some h
  rfl

end ActionReading

/-- A block is shown with the transactions that it holds. -/
theorem Block.result_fetch {node : Responder} {height : UInt64} {b : RawBlock} {logs : TransferLogs}
    (serves : node.Serves height b logs) (ctx : LedgerContext) :
    Talk.result node (fetch height ctx) =
      (b.decode logs ctx).map fun transactions => ⟨⟨b.height, b.hash⟩, b.parent, b.timestamp,
        transactions⟩ := by
  have raw : Talk.result node (Talk.query (.rawBlock height) LedgerError.node) = .ok b :=
    Talk.result_query_of_ok serves.block_eq _
  have told : Talk.result node (Talk.query (.transferLogs height) LedgerError.node) = .ok logs :=
    Talk.result_query_of_ok serves.logs_eq _
  rw [fetch, Talk.result_bind_of_ok raw, Talk.result_bind_of_ok told]
  cases b.decode logs ctx <;> rfl

theorem Block.decode_of_fetch {node : Responder} {height : UInt64} {b : RawBlock}
    {logs : TransferLogs} {ctx : LedgerContext} (serves : node.Serves height b logs) {block : Block}
    (h : Talk.result node (fetch height ctx) = .ok block) :
    b.decode logs ctx = .ok block.transactions := by
  rw [result_fetch serves] at h
  cases decoded : b.decode logs ctx with
  | error e =>
    rw [decoded] at h
    cases h
  | ok transactions =>
    rw [decoded] at h
    cases h
    rfl

namespace Transaction

variable {node : Responder} {height : UInt64} {b : RawBlock} {logs : TransferLogs}
  {ctx : LedgerContext}

/-- The action of a block is read with the answer about it as it is read with the logs of the
block. -/
theorem decodeAction_tellsOf (r : ActionReading b logs ctx) {groups : LogGroups}
    (h : logs.entriesOf? r.hash = .ok (groups.entries? r.hash)) :
    b.decodeAction r.hash r.action (groups.entries? r.hash) ctx = .ok r.transaction? := by
  have same : r.entries = groups.entries? r.hash := Except.ok.inj (r.entries_eq.symm.trans h)
  exact RawBlock.decodeAction_eq_ok.mpr
    ⟨r.receipt, r.receipt_eq, r.key, r.key_eq, r.reconciled, same ▸ r.reconciled_eq, rfl⟩

/-- Looking up a name finds the transaction of the first action that has it. -/
theorem result_fetch (serves : node.Serves height b logs)
    {readings : List (ActionReading b logs ctx)} (hactions : readings.map (·.octets) = b.actions)
    {entries : List LogEntry} (read : logs.entries = .ok entries) {name : String}
    {hash : ActionHash} (named : ActionHash.ofText name = .ok hash) :
    Talk.result node (fetch height name ctx) =
      ((readings.find? fun r => r.hash == hash).bind (·.transaction?)).elim
        (.error (.transactionNotFound name)) .ok := by
  have wanted : Talk.result node
      (Talk.ofExcept ((ActionHash.ofText name).mapError LedgerError.codec)) = .ok hash :=
    mapError_eq_ok.mpr named
  have raw : Talk.result node (Talk.query (.rawBlock height) LedgerError.node) = .ok b :=
    Talk.result_query_of_ok serves.block_eq _
  have actions : Talk.result node (Talk.ofExcept b.decodeActions) =
      .ok (readings.map fun r => (r.hash, r.action)) :=
    ActionReading.decodeActions hactions
  have searched : ((readings.map fun r => (r.hash, r.action)).find? fun a => a.1 == hash) =
      (readings.find? fun r => r.hash == hash).map fun r => (r.hash, r.action) := List.find?_map
  rw [fetch, Talk.result_bind_of_ok wanted, Talk.result_bind_of_ok raw,
    Talk.result_bind_of_ok actions, searched]
  -- only now the node is asked for logs, and only if the block has an action of the name
  cases first : readings.find? fun r => r.hash == hash with
  | none => rfl
  | some r =>
    obtain rfl : r.hash = hash := by simpa using List.find?_some first
    have member : r.octets ∈ b.actions :=
      hactions ▸ List.mem_map_of_mem (List.mem_of_find?_eq_some first)
    obtain ⟨own, told, tells⟩ := serves.logsOf r.octets member
    obtain ⟨groups, hgroups, complete, listed⟩ := LogGroups.ofLogs_tellsOf tells read
    have answer :
        Talk.result node (Talk.query (.transferLogOf r.hash) LedgerError.node) = .ok own :=
      Talk.result_query_of_ok told _
    have grouped : Talk.result node
        (Talk.ofExcept ((LogGroups.ofLogs own).mapError LedgerError.codec)) = .ok groups :=
      mapError_eq_ok.mpr hgroups
    have decoded : Talk.result node
        (Talk.ofExcept (b.decodeAction r.hash r.action (groups.entries? r.hash) ctx)) =
        .ok r.transaction? :=
      decodeAction_tellsOf r listed
    simp only [Option.map_some]
    rw [Talk.result_bind_of_ok answer, Talk.result_bind_of_ok grouped]
    simp only [show groups.orphan? [r.hash] = none from complete]
    rw [Talk.result_bind_of_ok decoded]
    cases shown : r.transaction? with
    | none => simp [shown, Talk.result_throw]
    | some t => simp [shown, Talk.result_pure]

theorem name_of_fetch {name : String} {t : Transaction}
    (h : Talk.result node (fetch height name ctx) = .ok t) :
    ∃ hash, ActionHash.ofText name = .ok hash := by
  rw [fetch, Talk.result_bind, bind_eq_ok] at h
  obtain ⟨hash, named, -⟩ := h
  exact ⟨hash, mapError_eq_ok.mp named⟩

/-- What a block shows under a name, it reads from an action of that name. -/
theorem shown_iff {readings : List (ActionReading b logs ctx)} {t : Transaction}
    {hash : ActionHash} :
    (t ∈ readings.filterMap (·.transaction?) ∧ t.hash = hash.text) ↔
      ∃ r ∈ readings, r.hash = hash ∧ r.transaction? = some t := by
  rw [List.mem_filterMap]
  constructor
  · rintro ⟨⟨r, hr, shown⟩, named⟩
    have same := (ActionReading.hash_of_transaction? shown).symm.trans named
    exact ⟨r, hr, ActionHash.text_injective same, shown⟩
  · rintro ⟨r, hr, rfl, shown⟩
    exact ⟨⟨r, hr, shown⟩, ActionReading.hash_of_transaction? shown⟩

section
variable {readings : List (ActionReading b logs ctx)} {entries : List LogEntry} {name : String}
  {hash : ActionHash}

theorem mem_of_find? {r : ActionReading b logs ctx}
    (h : (readings.find? fun r => r.hash == hash) = some r) : r ∈ readings ∧ r.hash = hash :=
  ⟨List.mem_of_find?_eq_some h, by simpa using List.find?_some h⟩

theorem fetch_eq_ok (serves : node.Serves height b logs)
    (hactions : readings.map (·.octets) = b.actions) (read : logs.entries = .ok entries)
    (named : ActionHash.ofText name = .ok hash) {t : Transaction} :
    Talk.result node (fetch height name ctx) = .ok t ↔
      ∃ r, (readings.find? fun r => r.hash == hash) = some r ∧ r.transaction? = some t := by
  rw [result_fetch serves hactions read named, ← Option.bind_eq_some_iff]
  cases (readings.find? fun r => r.hash == hash).bind (·.transaction?) <;> simp

/-- A name under which nothing is shown is not found. -/
theorem fetch_not_found (serves : node.Serves height b logs)
    (hactions : readings.map (·.octets) = b.actions) (read : logs.entries = .ok entries)
    (named : ActionHash.ofText name = .ok hash)
    (missing : ∀ t ∈ readings.filterMap (·.transaction?), t.hash ≠ hash.text) :
    Talk.result node (fetch height name ctx) = .error (.transactionNotFound name) := by
  have nothing : (readings.find? fun r => r.hash == hash).bind (·.transaction?) = none := by
    rw [Option.eq_none_iff_forall_ne_some]
    intro t ht
    obtain ⟨r, found, own⟩ := Option.bind_eq_some_iff.mp ht
    obtain ⟨hr, hhash⟩ := mem_of_find? found
    obtain ⟨inside, same⟩ := shown_iff.mpr ⟨r, hr, hhash, own⟩
    exact missing t inside same
  rw [result_fetch serves hactions read named, nothing]
  rfl

/-- Where a name stands for one action, it does not matter which reading of that name is looked
at. -/
theorem fetch_of_namesOne (serves : node.Serves height b logs)
    (hactions : readings.map (·.octets) = b.actions) (read : logs.entries = .ok entries)
    (named : ActionHash.ofText name = .ok hash) (one : b.NamesOne hash) {t : Transaction} :
    Talk.result node (fetch height name ctx) = .ok t ↔
      t ∈ readings.filterMap (·.transaction?) ∧ t.hash = hash.text := by
  rw [fetch_eq_ok serves hactions read named, shown_iff]
  constructor
  · rintro ⟨r, found, own⟩
    obtain ⟨hr, hhash⟩ := mem_of_find? found
    exact ⟨r, hr, hhash, own⟩
  · rintro ⟨r, hr, hhash, own⟩
    have some : (readings.find? fun r => r.hash == hash).isSome := by
      rw [List.find?_isSome]
      exact ⟨r, hr, by simp [hhash]⟩
    obtain ⟨first, found⟩ := Option.isSome_iff_exists.mp some
    obtain ⟨hfirst, hname⟩ := mem_of_find? found
    have member {r : ActionReading b logs ctx} (hr : r ∈ readings) : r.octets ∈ b.actions :=
      hactions ▸ List.mem_map_of_mem hr
    obtain rfl := ActionReading.eq_of_octets (one _ (member hfirst) _ (member hr) hname hhash)
    exact ⟨first, found, own⟩

end

/-- A lookup agrees with the block. What it shows stands in the block under the name that was asked
for, and a name under which the block shows nothing is not found, whether there is no such action or
one without operations. Where the name stands for one action, the lookup shows all that the block
shows under it. -/
theorem fetch_agrees (serves : node.Serves height b logs) {block : Block}
    (h : Talk.result node (Block.fetch height ctx) = .ok block) (name : String) :
    (∀ t, Talk.result node (fetch height name ctx) = .ok t →
      ∃ hash, ActionHash.ofText name = .ok hash ∧ t ∈ block.transactions ∧ t.hash = hash.text) ∧
    ∀ hash, ActionHash.ofText name = .ok hash →
      ((∀ t ∈ block.transactions, t.hash ≠ hash.text) →
        Talk.result node (fetch height name ctx) = .error (.transactionNotFound name)) ∧
      (b.NamesOne hash → ∀ t, Talk.result node (fetch height name ctx) = .ok t ↔
        (∃ t' ∈ block.transactions, t'.hash = hash.text) ∧
          ∀ t' ∈ block.transactions, t'.hash = hash.text → t' = t) := by
  obtain ⟨⟨entries, read⟩, -, readings, hactions, shown⟩ :=
    RawBlock.decode_eq_ok.mp (Block.decode_of_fetch serves h)
  rw [← shown]
  refine ⟨fun t ht => ?_,
    fun hash named => ⟨fetch_not_found serves hactions read named, fun one t => ?_⟩⟩
  · obtain ⟨hash, named⟩ := name_of_fetch ht
    obtain ⟨r, found, own⟩ := (fetch_eq_ok serves hactions read named).mp ht
    obtain ⟨hr, hhash⟩ := mem_of_find? found
    exact ⟨hash, named, shown_iff.mpr ⟨r, hr, hhash, own⟩⟩
  · have all {t : Transaction} := fetch_of_namesOne (t := t) serves hactions read named one
    constructor
    · intro ht
      refine ⟨⟨t, all.mp ht⟩, fun t' inside same => ?_⟩
      exact Except.ok.inj ((all.mpr ⟨inside, same⟩).symm.trans ht)
    · rintro ⟨⟨t', inside, same⟩, only⟩
      obtain rfl := only t' inside same
      exact all.mpr ⟨inside, same⟩

end Transaction

namespace Specimen

/-- A node that knows one block. -/
def node : Responder
  | .rawBlock _ => .ok block
  | .transferLogs _ => .ok logs
  | .transferLogOf hash => .ok (logs.only hash)
  | _ => .error (.notFound "")

theorem node_serves : node.Serves 10 block logs :=
  ⟨rfl, rfl, fun _ _ => ⟨_, rfl, TransferLogs.only_tellsOf logs _⟩⟩

def paymentName : String := ActionHash.text (Hash.digest256 payment)

theorem names_nodup : (block.actions.map Hash.digest256).Nodup := by
  decide +kernel

theorem block_fetched : ∃ shown, Talk.result node (Block.fetch 10 {}) = .ok shown ∧
    shown.transactions.map (fun t => (t.hash == paymentName, amounts t)) =
      [(false, [-600, 300, -7, 7]), (true, [-4, 4])] := by
  obtain ⟨txs, decoded, named⟩ := block_named
  have fetched := Block.result_fetch node_serves {}
  rw [decoded] at fetched
  exact ⟨_, fetched, named⟩

theorem payment_fetched :
    ∃ t, Talk.result node (Transaction.fetch 10 paymentName {}) = .ok t ∧ amounts t = [-4, 4] := by
  obtain ⟨shown, fetched, listed⟩ := block_fetched
  obtain ⟨creation, rest, transactions, other, listed⟩ := List.map_eq_cons_iff.mp listed
  obtain ⟨payment, rest, rfl, own, listed⟩ := List.map_eq_cons_iff.mp listed
  obtain rfl := List.map_eq_nil_iff.mp listed
  obtain ⟨unnamed, -⟩ := Prod.mk.inj other
  obtain ⟨named, moved⟩ := Prod.mk.inj own
  obtain ⟨-, all⟩ :=
    (Transaction.fetch_agrees node_serves fetched paymentName).2 _ (ActionHash.ofText_text _)
  have one := RawBlock.namesOne_of_nodup names_nodup (Hash.digest256 Specimen.payment)
  refine ⟨payment, (all one payment).mpr ⟨⟨payment, by simp [transactions], eq_of_beq named⟩, ?_⟩,
    moved⟩
  intro t ht same
  rw [transactions, List.mem_cons, List.mem_singleton] at ht
  obtain rfl | rfl := ht
  · exact absurd same (ne_of_beq_false unnamed)
  · rfl

end Specimen

end LedgerGateway
