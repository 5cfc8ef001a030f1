import LedgerGateway.Ledger.RawBlock
import LedgerGateway.Proofs.Outcome

/-!
# Log entries by action

A block collects the entries of all log records into groups, one for each action that a record
names. The plain way to find the entries of one action is to look at the records that name it and at
nothing else. Both find the same (`entries?_ofLogs`, `entriesOf?_eq`), however the records of
different actions are mixed.
-/

namespace LedgerGateway

open Outcome

namespace TransferLogs

section
variable {μ : Type} {typeOf : μ → Except CodecError OperationType}

theorem readTransfer_actionHash {hash : ActionHash} {t : LoggedTransfer μ} {e : LogEntry}
    (h : readTransfer typeOf hash t = .ok e) : e.actionHash = hash := by
  simp only [readTransfer, bind_eq_ok, pure_eq_ok] at h
  obtain ⟨_, _, _, _, _, _, _, _, rfl⟩ := h
  rfl

theorem transfers_actionHash {hash : ActionHash} {ts : List (LoggedTransfer μ)}
    {own : List LogEntry} (h : ts.mapM (readTransfer typeOf hash) = .ok own) :
    ∀ e ∈ own, e.actionHash = hash := by
  induction mapM_eq_ok.mp h with
  | nil => simp
  | cons head _ ih =>
    rename_i rest
    have tail := ih (mapM_eq_ok.mpr rest)
    exact List.forall_mem_cons.mpr ⟨readTransfer_actionHash head, tail⟩

theorem readRecords_cons {r : LogRecord μ} {records : List (LogRecord μ)}
    {entries : List LogEntry} :
    readRecords typeOf (r :: records) = .ok entries ↔
      ∃ own rest, r.transfers.mapM (readTransfer typeOf r.actionHash) = .ok own ∧
        readRecords typeOf records = .ok rest ∧ entries = own ++ rest := by
  simp only [readRecords, List.mapM_cons, bind_eq_ok, pure_eq_ok]
  constructor
  · rintro ⟨_, ⟨own, hown, parts, hparts, rfl⟩, rfl⟩
    exact ⟨own, parts.flatten, hown, ⟨parts, hparts, rfl⟩, rfl⟩
  · rintro ⟨own, _, hown, ⟨parts, hparts, rfl⟩, rfl⟩
    exact ⟨own :: parts, ⟨own, hown, parts, hparts, rfl⟩, rfl⟩

/-- Leaving out the records of other actions leaves out exactly the entries of other actions. -/
theorem readRecords_filter (hash : ActionHash) {records : List (LogRecord μ)}
    {entries : List LogEntry} (h : readRecords typeOf records = .ok entries) :
    readRecords typeOf (records.filter fun r => r.actionHash == hash) =
      .ok (entries.filter fun e => e.actionHash == hash) := by
  induction records generalizing entries with
  | nil =>
    obtain rfl : [] = entries := by simpa [readRecords, pure_eq_ok] using h
    exact h
  | cons r records ih =>
    obtain ⟨own, rest, hown, hrest, rfl⟩ := readRecords_cons.mp h
    have named := transfers_actionHash hown
    rw [List.filter_append]
    by_cases hr : r.actionHash = hash
    · have keep : own.filter (fun e => e.actionHash == hash) = own := by
        apply List.filter_eq_self.mpr
        intro e he
        simp [named e he, hr]
      rw [List.filter_cons_of_pos (by simpa using hr), keep]
      exact readRecords_cons.mpr ⟨own, _, hown, ih hrest, rfl⟩
    · have drop : own.filter (fun e => e.actionHash == hash) = [] := by
        apply List.filter_eq_nil_iff.mpr
        intro e he
        simp [named e he, hr]
      rw [List.filter_cons_of_neg (by simpa using hr), drop]
      exact ih hrest

theorem readRecords_named {records : List (LogRecord μ)} {entries : List LogEntry}
    (h : readRecords typeOf records = .ok entries) :
    ∀ e ∈ entries, e.actionHash ∈ records.map (·.actionHash) := by
  induction records generalizing entries with
  | nil =>
    obtain rfl : [] = entries := by simpa [readRecords, pure_eq_ok] using h
    simp
  | cons r records ih =>
    obtain ⟨own, rest, hown, hrest, rfl⟩ := readRecords_cons.mp h
    intro e he
    rw [List.map_cons, List.mem_cons]
    rcases List.mem_append.mp he with he | he
    · exact .inl (transfers_actionHash hown e he)
    · exact .inr (ih hrest e he)

end

/-- The records that name an action, in the node's order and shape. -/
def only (hash : ActionHash) : TransferLogs → TransferLogs
  | unavailable => unavailable
  | implicit records => implicit (records.filter fun r => r.actionHash == hash)
  | transaction records => transaction (records.filter fun r => r.actionHash == hash)

/-- What the records of one action list, none if no record names it. Records of other actions are
not even read. -/
def entriesOf? (logs : TransferLogs) (hash : ActionHash) :
    Except CodecError (Option (List LogEntry)) :=
  if hash ∈ logs.actionHashes then some <$> (logs.only hash).entries else .ok none

theorem entries_only {logs : TransferLogs} {entries : List LogEntry} (hash : ActionHash)
    (h : logs.entries = .ok entries) :
    (logs.only hash).entries = .ok (entries.filter fun e => e.actionHash == hash) := by
  cases logs with
  | unavailable => cases h; rfl
  | implicit records => exact readRecords_filter hash h
  | transaction records => exact readRecords_filter hash h

theorem entries_named {logs : TransferLogs} {entries : List LogEntry}
    (h : logs.entries = .ok entries) : ∀ e ∈ entries, e.actionHash ∈ logs.actionHashes := by
  cases logs with
  | unavailable => cases h; simp
  | implicit records => exact readRecords_named h
  | transaction records => exact readRecords_named h

/-- Once all records can be read, those of one action are the entries under its name. -/
theorem entriesOf?_eq {logs : TransferLogs} {entries : List LogEntry} (hash : ActionHash)
    (h : logs.entries = .ok entries) :
    logs.entriesOf? hash = .ok (if hash ∈ logs.actionHashes then
      some (entries.filter fun e => e.actionHash == hash) else none) := by
  unfold entriesOf?
  split
  · rw [entries_only hash h]
    rfl
  · rfl

end TransferLogs

namespace LogGroups

theorem entries?_append (g g' : LogGroups) (k : ActionHash) :
    entries? (g ++ g') k = (g.entries? k).or (g'.entries? k) := by
  simp only [entries?, List.find?_append]
  cases g.find? fun p => p.1 == k <;> rfl

theorem entries?_isSome (g : LogGroups) (k : ActionHash) :
    (g.entries? k).isSome = g.any fun p => p.1 == k := by
  rw [Bool.eq_iff_iff, entries?, Option.isSome_map, List.find?_isSome, List.any_eq_true]

/-- Opening a group changes nothing but that there is one. -/
theorem entries?_ensure (g : LogGroups) (hash k : ActionHash) :
    (g.ensure hash).entries? k =
      if k = hash then some ((g.entries? k).getD []) else g.entries? k := by
  have single : entries? [(hash, [])] k = if k = hash then some [] else none := by
    by_cases hk : k = hash
    · simp [entries?, hk]
    · simp [entries?, hk, Ne.symm hk]
  unfold ensure
  split
  · rename_i found
    rw [← entries?_isSome] at found
    split
    · rename_i hk
      subst hk
      obtain ⟨l, hl⟩ := Option.isSome_iff_exists.mp found
      simp [hl]
    · rfl
  · rename_i missing
    rw [entries?_append, single]
    split
    · rename_i hk
      subst hk
      rw [← entries?_isSome, Bool.not_eq_true, Option.isSome_eq_false_iff,
        Option.isNone_iff_eq_none] at missing
      simp [missing]
    · simp

/-- Adding an entry opens its group if need be and appends to that group alone. -/
theorem entries?_add (g : LogGroups) (e : LogEntry) (k : ActionHash) :
    (g.add e).entries? k =
      if k = e.actionHash then some ((g.entries? k).getD [] ++ [e]) else g.entries? k := by
  have appended (g : LogGroups) :
      entries? (g.map fun p => if p.1 = e.actionHash then (p.1, p.2 ++ [e]) else p) k =
        (g.entries? k).map fun l => if k = e.actionHash then l ++ [e] else l := by
    induction g with
    | nil => rfl
    | cons p g ih =>
      simp only [entries?, List.map_cons, List.find?_cons] at ih ⊢
      by_cases hp : p.1 = e.actionHash
      · by_cases hk : p.1 = k
        · simp [hp, ← hk]
        · simpa [hp, beq_false_of_ne (hp ▸ hk)] using ih
      · by_cases hk : p.1 = k
        · simp [hp, ← hk]
        · simpa [hp, beq_false_of_ne hk] using ih
  rw [add, appended, entries?_ensure]
  split <;> simp

theorem entries?_foldl_ensure (hashes : List ActionHash) (g : LogGroups) (k : ActionHash) :
    (hashes.foldl ensure g).entries? k =
      if k ∈ hashes then some ((g.entries? k).getD []) else g.entries? k := by
  induction hashes generalizing g with
  | nil => simp
  | cons hash hashes ih =>
    rw [List.foldl_cons, ih, entries?_ensure]
    by_cases hk : k = hash <;> simp [hk]

/-- Entries that are added one after the other end up where a filter would put them. -/
theorem entries?_foldl_add (entries : List LogEntry) (g : LogGroups) (k : ActionHash)
    (opened : ∀ e ∈ entries, (g.entries? e.actionHash).isSome) :
    (entries.foldl add g).entries? k =
      (g.entries? k).map fun l => l ++ entries.filter fun e => e.actionHash == k := by
  induction entries generalizing g with
  | nil => simp
  | cons e entries ih =>
    obtain ⟨own, hown⟩ := Option.isSome_iff_exists.mp (opened e (by simp))
    have still : ∀ e' ∈ entries, ((g.add e).entries? e'.actionHash).isSome := by
      intro e' he'
      rw [entries?_add]
      split
      · rfl
      · exact opened e' (by simp [he'])
    rw [List.foldl_cons, ih (g.add e) still, entries?_add]
    by_cases hk : k = e.actionHash
    · subst hk
      simp [hown]
    · simp [hk, Ne.symm hk]

theorem ofLogs_eq_ok {logs : TransferLogs} {g : LogGroups} :
    ofLogs logs = .ok g ↔
      ∃ entries, logs.entries = .ok entries ∧
        entries.foldl add (logs.actionHashes.foldl ensure []) = g := by
  simp only [ofLogs, bind_eq_ok, pure_eq_ok]

/-- The group of an action holds what the records of that action list. -/
theorem entries?_ofLogs {logs : TransferLogs} {g : LogGroups} (h : ofLogs logs = .ok g)
    (hash : ActionHash) : logs.entriesOf? hash = .ok (g.entries? hash) := by
  obtain ⟨entries, hentries, rfl⟩ := ofLogs_eq_ok.mp h
  have opened (k : ActionHash) : entries? (logs.actionHashes.foldl ensure []) k =
      if k ∈ logs.actionHashes then some [] else none := by
    rw [entries?_foldl_ensure]
    rfl
  rw [TransferLogs.entriesOf?_eq hash hentries, entries?_foldl_add, opened]
  · split <;> simp
  · intro e he
    rw [opened, if_pos (TransferLogs.entries_named hentries e he)]
    rfl

theorem mem_keys (g : LogGroups) (k : ActionHash) : k ∈ g.map Prod.fst ↔ (g.entries? k).isSome := by
  simp [entries?_isSome]

theorem mem_keys_ofLogs {logs : TransferLogs} {g : LogGroups} (h : ofLogs logs = .ok g)
    (hash : ActionHash) : hash ∈ g.map Prod.fst ↔ hash ∈ logs.actionHashes := by
  obtain ⟨entries, hentries, -⟩ := ofLogs_eq_ok.mp h
  have same := (entries?_ofLogs h hash).symm.trans (TransferLogs.entriesOf?_eq hash hentries)
  rw [mem_keys, Except.ok.inj same]
  split <;> simp [*]

/-- No group is without its action when every record names one of the known actions. -/
theorem orphan?_eq_none {logs : TransferLogs} {g : LogGroups} (h : ofLogs logs = .ok g)
    (known : List ActionHash) :
    g.orphan? known = none ↔ ∀ hash ∈ logs.actionHashes, hash ∈ known := by
  simp only [orphan?, List.find?_eq_none, mem_keys_ofLogs h]
  simp

end LogGroups

end LedgerGateway
