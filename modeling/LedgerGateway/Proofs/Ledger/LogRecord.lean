import LedgerGateway.Proofs.Ledger.ActionReading

/-!
# What a log record decides

A log record tells all that an action moved, and its payload is not looked at. Of the fee it tells
something only if it lists one other than zero; that fee then stands, and otherwise the fee is
computed as it would be without the record. Only grants pay a fee for having a record: without one
they pay none whatever their price.
-/

namespace LedgerGateway

namespace LogEntry

/-- The fees that a record lists; a fee of zero is none. -/
def listedFees (entries : List LogEntry) : List Posting :=
  (entries.filter fun e => e.type = .gasFee ∧ e.amount ≠ 0).map fun e =>
    .balanced .gasFee e.sender e.recipient e.amount

/-- What else a record lists; nothing that is zero. -/
def listedMovements (entries : List LogEntry) : List Posting :=
  (entries.filter fun e => e.type ≠ .gasFee ∧ e.amount ≠ 0).map fun e =>
    .balanced e.type e.sender e.recipient e.amount

/-- Entries are picked by any test that says the same. -/
theorem filter_eq_moving (fees : Bool) {p : LogEntry → Bool}
    (h : ∀ e, p e = true ↔ e.amount ≠ 0 ∧ (e.type = .gasFee ↔ fees = true))
    (entries : List LogEntry) : entries.filter p = Reconciled.moving fees entries := by
  apply List.filter_congr
  intro e _
  rw [Bool.eq_iff_iff, h]
  cases fees <;> simp

theorem listedFees_eq (entries : List LogEntry) :
    listedFees entries = (Reconciled.moving true entries).map posting := by
  rw [listedFees, filter_eq_moving true fun e => by simp [and_comm]]
  apply List.map_congr_left
  intro e he
  obtain ⟨-, -, kind⟩ := Reconciled.mem_moving.mp he
  rw [posting, kind.mpr rfl]

theorem listedMovements_eq (entries : List LogEntry) :
    listedMovements entries = (Reconciled.moving false entries).map posting := by
  rw [listedMovements, filter_eq_moving false fun e => by simp [and_comm]]
  rfl

end LogEntry

namespace Reconciled

variable {action : Action} {core : ActionCore} {sender : Address} {receipt : Receipt}
  {height : UInt64} {ctx : LedgerContext} {entries : List LogEntry}

theorem ofAction_recorded (hcore : action.core = some core) :
    ofAction action sender receipt height (some entries) ctx =
      withLogs entries core sender receipt height ctx := by
  rw [ofAction, Action.requireCore, hcore]
  rfl

theorem withLogs_listed (lists : ListsFee entries) :
    withLogs entries core sender receipt height ctx =
      .ok ⟨LogEntry.listedFees entries, LogEntry.listedMovements entries⟩ := by
  rw [LogEntry.listedFees_eq, LogEntry.listedMovements_eq]
  exact withLogs_eq_ok.mpr (.inl ⟨lists, rfl⟩)

theorem withLogs_unlisted (unlisted : ¬ ListsFee entries) :
    withLogs entries core sender receipt height ctx =
      (Fee.ofCore core sender receipt height ctx).map fun fee => ⟨fee.toList,
        LogEntry.listedMovements entries⟩ := by
  have empty : ((moving true entries).map LogEntry.posting).isEmpty = true := by
    rw [List.isEmpty_iff, List.map_eq_nil_iff, moving_eq_nil]
    exact unlisted
  rw [LogEntry.listedMovements_eq, withLogs]
  simp only [if_pos empty]
  cases Fee.ofCore core sender receipt height ctx <;> rfl

end Reconciled

namespace Specimen

/-- An action at a price that may be no number. -/
def priced (price : String) (payload : Payload) : Action :=
  { core := some { gasPrice := price, payload := some payload } }

def payer : Address := Address.stakingPool

def entry (type : OperationType) (amount : Nat) : LogEntry :=
  ⟨Hash.digest256 payment, payer, Address.rewardingPool, amount, type⟩

end Specimen

/-! ## The fee that a record lists -/

/-- A record that lists a fee other than zero tells everything: its fees and movements are those
listed, in the order of the record, for every action, payer, receipt, height and network. With any
other record, also one that lists fees of zero, the fee is computed. -/
theorem Reconciled.listed_fee_decides (entries : List LogEntry) :
    (ListsFee entries → ∃ r : Reconciled, r.fees = LogEntry.listedFees entries ∧
      r.principal = LogEntry.listedMovements entries ∧
      ∀ action core sender receipt height ctx, action.core = some core →
        ofAction action sender receipt height (some entries) ctx = .ok r) ∧
    (¬ ListsFee entries → ∀ action core sender receipt height ctx, action.core = some core →
      ofAction action sender receipt height (some entries) ctx =
        (Fee.ofCore core sender receipt height ctx).map fun fee =>
          ⟨fee.toList, LogEntry.listedMovements entries⟩) := by
  constructor
  · intro lists
    refine ⟨⟨LogEntry.listedFees entries, LogEntry.listedMovements entries⟩, rfl, rfl, ?_⟩
    intro action core sender receipt height ctx hcore
    rw [ofAction_recorded hcore, withLogs_listed lists]
  · intro unlisted action core sender receipt height ctx hcore
    rw [ofAction_recorded hcore, withLogs_unlisted unlisted]

namespace Specimen

/-- A price that is no number and a fee of zero do not matter beside a fee of 4. -/
theorem listed_fee_stands : ∃ r : Reconciled,
    r.fees = [.balanced .gasFee payer Address.rewardingPool 4] ∧
      r.principal = [.balanced .nativeTransfer payer Address.rewardingPool 5] ∧
      Reconciled.ofAction (priced "1.5" (.transfer { amount := "7" })) payer (receipt payment 1) 10
        (some [entry .gasFee 0, entry .nativeTransfer 5, entry .gasFee 4, entry .nativeTransfer 0])
        {} = .ok r := by
  have lists : ListsFee [entry .gasFee 0, entry .nativeTransfer 5, entry .gasFee 4,
      entry .nativeTransfer 0] :=
    ⟨entry .gasFee 4, by simp, rfl, by decide⟩
  obtain ⟨r, fees, principal, same⟩ := (Reconciled.listed_fee_decides _).1 lists
  exact ⟨r, fees, principal, same _ _ _ _ _ _ rfl⟩

/-- A fee of zero does not stand: the fee is computed, and a price that is no number is refused. -/
theorem zero_fee_computed :
    (∃ r,
      Reconciled.ofAction (priced "3" (.transfer { amount := "5" })) payer (receipt payment 1) 10
        (some [entry .gasFee 0]) {} = .ok r ∧
      r.fees = [.balanced .gasFee payer Address.rewardingPool 300] ∧
      LogEntry.listedFees [entry .gasFee 0] = []) ∧
    Reconciled.ofAction (priced "bad" (.transfer { amount := "5" })) payer (receipt payment 1) 10
      (some [entry .gasFee 0]) {} =
        .error (.invalidGasPrice (receipt payment 1).actionHash "bad") :=
  ⟨⟨_, rfl, rfl, rfl⟩, rfl⟩

end Specimen

/-! ## The fee that a record does not list -/

/-- A record that lists no fee leaves the fee of an action as it is without the record. A grant is
the exception: it pays none without a record, and the whole charge with one. -/
theorem Reconciled.record_keeps_fee {action : Action} {sender : Address} {receipt : Receipt}
    {height : UInt64} {ctx : LedgerContext} {entries : List LogEntry} {plain : Reconciled}
    (unlisted : ¬ ListsFee entries)
    (without : ofAction action sender receipt height none ctx = .ok plain) :
    ∃ core, action.core = some core ∧
      ((∀ g, core.payload ≠ some (.grantReward g)) → ∃ recorded,
        ofAction action sender receipt height (some entries) ctx = .ok recorded ∧
          recorded.fees = plain.fees) ∧
      ∀ g, core.payload = some (.grantReward g) → plain.fees = [] ∧
        ∀ recorded, ofAction action sender receipt height (some entries) ctx = .ok recorded →
          recorded.fees = if Fee.charge core receipt = 0 then []
            else [.balanced .gasFee sender ctx.pools.rewarding (Fee.charge core receipt)] := by
  obtain ⟨core, hcore⟩ := core_of_eq_ok without
  refine ⟨core, hcore, ?_⟩
  rw [ofAction_recorded hcore, withLogs_unlisted unlisted]
  obtain ⟨grant, rfl⟩ | ⟨paid, fee, known, moved, -, rfl⟩ :=
    withoutLogs_eq_ok.mp ((ofAction_eq_ok hcore).mp without)
  · constructor
    · intro other
      obtain ⟨g, hg⟩ := isGrant_iff.mp grant
      exact absurd hg (other g)
    · intro g _
      refine ⟨rfl, fun recorded h => ?_⟩
      have once : ¬ Fee.ChargedTwice core height ctx := by
        rintro ⟨execution, -⟩
        exact Bool.false_ne_true ((isExecution_of_isGrant grant).symm.trans execution)
      cases known : Fee.ofCore core sender receipt height ctx with
      | error e =>
        rw [known] at h
        cases h
      | ok fee =>
        rw [known] at h
        obtain rfl := Except.ok.inj h
        exact Fee.ofCore_once once known
  · constructor
    · intro _
      rw [known]
      exact ⟨_, rfl, rfl⟩
    · intro g hg
      exact absurd (isGrant_iff.mpr ⟨g, hg⟩) (by simp [paid])

namespace Specimen

/-- A contract is created below the Pacific height and pays twice, with a record and without one. -/
theorem creation_keeps_fee : ∃ plain recorded : Reconciled,
      Reconciled.ofAction (priced "3" (.execution { amount := "7" })) payer (receipt creation 1) 10
        none {} = .ok plain ∧
      Reconciled.ofAction (priced "3" (.execution { amount := "7" })) payer (receipt creation 1) 10
        (some [entry .inContractTransfer 5, entry .gasFee 0]) {} = .ok recorded ∧
      recorded.fees = plain.fees ∧ plain.fees = [Fee.double payer {} 300] := by
  have unlisted : ¬ ListsFee [entry .inContractTransfer 5, entry .gasFee 0] := by
    simp [ListsFee, entry]
  have without : Reconciled.ofAction (priced "3" (.execution { amount := "7" })) payer
      (receipt creation 1) 10 none {} =
      .ok ⟨[Fee.double payer {} 300],
        [.balanced .inContractTransfer payer Address.stakingPool 7]⟩ := rfl
  obtain ⟨core, hcore, other, -⟩ := Reconciled.record_keeps_fee unlisted without
  obtain rfl := Option.some.inj hcore
  obtain ⟨recorded, known, same⟩ := other (by simp)
  exact ⟨_, recorded, without, known, same, rfl⟩

/-- The grant that pays nothing without a record pays the whole charge with an empty one. -/
theorem grant_pays_for_record :
    (∃ r,
      Reconciled.ofAction (priced "3" (.grantReward {})) payer (receipt grant 1) 10 none {} =
        .ok r ∧
      r.fees = []) ∧
    ∃ r,
      Reconciled.ofAction (priced "3" (.grantReward {})) payer (receipt grant 1) 10 (some []) {} =
        .ok r ∧
      r.fees = [.balanced .gasFee payer Address.rewardingPool 300] :=
  ⟨⟨_, rfl, rfl⟩, _, rfl, rfl⟩

end Specimen

/-! ## What moved -/

/-- Two actions with the same price that are both executions or both none have the same postings
under a record, or the same refusal of the price. Nothing else in them is seen, and what they are
shown to move is what the record lists. -/
theorem Reconciled.record_hides_payload {a b : Action} {coreA coreB : ActionCore} {sender : Address}
    {receipt : Receipt} {height : UInt64} {ctx : LedgerContext} {entries : List LogEntry}
    (ha : a.core = some coreA) (hb : b.core = some coreB) (price : coreA.gasPrice = coreB.gasPrice)
    (kind : Fee.isExecution coreA = Fee.isExecution coreB) :
    ofAction a sender receipt height (some entries) ctx =
      ofAction b sender receipt height (some entries) ctx ∧
      ((∃ fees, ofAction a sender receipt height (some entries) ctx =
          .ok ⟨fees, LogEntry.listedMovements entries⟩) ∨
        ofAction a sender receipt height (some entries) ctx =
          .error (.invalidGasPrice receipt.actionHash coreA.gasPrice)) := by
  rw [ofAction_recorded ha, ofAction_recorded hb]
  by_cases lists : ListsFee entries
  · rw [withLogs_listed lists, withLogs_listed lists]
    exact ⟨rfl, .inl ⟨_, rfl⟩⟩
  · rw [withLogs_unlisted lists, withLogs_unlisted lists, ← Fee.ofCore_congr price kind]
    refine ⟨rfl, ?_⟩
    cases known : Fee.ofCore coreA sender receipt height ctx with
    | ok fee => exact .inl ⟨_, rfl⟩
    | error e =>
      obtain ⟨-, rfl⟩ := Fee.ofCore_eq_error.mp known
      exact .inr rfl

namespace Specimen

/-- A payload under a record that lists a fee of zero and a withdrawal. -/
def withdrawn (payload : Payload) : Except LedgerError Reconciled :=
  Reconciled.ofAction (priced "3" payload) payer (receipt payment 1) 10
    (some [entry .gasFee 0, entry .withdrawBucket 5]) {}

/-- An amount that is no number and a stake of 9 make no difference where the record tells what
moved. -/
theorem payloads_hidden :
    withdrawn (.transfer { amount := "many" }) = withdrawn (.stakeCreate { stakedAmount := "9" }) ∧
      ∃ fees, withdrawn (.transfer { amount := "many" }) =
        .ok ⟨fees, [.balanced .withdrawBucket payer Address.rewardingPool 5]⟩ := by
  have hidden : withdrawn (.transfer { amount := "many" }) =
      withdrawn (.stakeCreate { stakedAmount := "9" }) ∧
      ((∃ fees, withdrawn (.transfer { amount := "many" }) = .ok ⟨fees, _⟩) ∨
        withdrawn (.transfer { amount := "many" }) = .error _) :=
    Reconciled.record_hides_payload rfl rfl rfl rfl
  obtain ⟨same, found | refused⟩ := hidden
  · exact ⟨same, found⟩
  · cases refused

end Specimen

end LedgerGateway
