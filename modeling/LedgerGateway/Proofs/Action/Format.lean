import LedgerGateway.Action.Format
import LedgerGateway.Proofs.Wire.Message

/-!
# Actions are read back

Every format of an action is faithful. The proof of each goes through its table of fields in
order and says what each field restores; the number behind `Faithful` is how deep messages
are nested in it.
-/

namespace LedgerGateway

open Wire (Message Restores Carried Field)

theorem Transfer.faithful : Transfer.format.Faithful 0 :=
  Message.faithful_of_restores (by decide) fun _ _ _ =>
    .text (by decide) rfl <| .text (by decide) rfl <| .octets (by decide) rfl <| .done rfl

theorem Execution.faithful : Execution.format.Faithful 0 :=
  Message.faithful_of_restores (by decide) fun _ _ _ =>
    .text (by decide) rfl <| .text (by decide) rfl <| .octets (by decide) rfl <| .done rfl

theorem FundMovement.faithful (name : String) : (FundMovement.format name).Faithful 0 :=
  have unambiguous : (FundMovement.format "").Unambiguous := by decide
  Message.faithful_of_restores unambiguous fun _ _ _ =>
    .text (by decide) rfl <| .octets (by decide) rfl <| .done rfl

/-- A word of 32 bits is read back from the word of 64 bits that stands for a negative number. -/
theorem ofNat_toInt_emod (n : Int32) : Int32.ofNat (n.toInt % 0x10000000000000000).toNat = n := by
  have low : n.toInt % 0x10000000000000000 % (Int32.size : Nat) = n.toInt % (Int32.size : Nat) :=
    Int.emod_emod_of_dvd _ (by decide)
  have balanced : (n.toInt % 0x10000000000000000).bmod Int32.size = n.toInt.bmod Int32.size := by
    rw [Int.bmod, low, Int.bmod]
  rw [← Int32.toInt_inj, Int32.toInt_ofNat',
    Int.toNat_of_nonneg (Int.emod_nonneg _ (by decide)), balanced]
  exact n.toInt_bmod

theorem GrantReward.faithful : GrantReward.format.Faithful 0 :=
  Message.faithful_of_restores (by decide) fun _ _ a => by
    have word : (a.rewardType.toInt % 0x10000000000000000).toNat < UInt64.size := by
      simp only [UInt64.size]
      omega
    exact .number (by decide) word rfl <| .number (by decide) a.height.toNat_lt rfl <| .done (by
      simp only [ofNat_toInt_emod, UInt64.ofNat_toNat])

theorem toNat_lt_word (n : UInt32) : n.toNat < UInt64.size :=
  Nat.lt_trans n.toNat_lt (by decide)

theorem toNat_bne_zero (b : Bool) : (b.toNat != 0) = b := by cases b <;> rfl

theorem StakeCreate.faithful : StakeCreate.format.Faithful 0 :=
  Message.faithful_of_restores (by decide) fun _ _ a => by
    have flag : a.autoStake.toNat < UInt64.size :=
      Nat.lt_of_le_of_lt a.autoStake.toNat_le (by decide)
    exact .text (by decide) rfl <| .text (by decide) rfl <|
      .number (by decide) (toNat_lt_word _) rfl <|
      .number (by decide) flag rfl <| .octets (by decide) rfl <|
      .done (by simp only [UInt32.ofNat_toNat, toNat_bne_zero])

theorem StakeReclaim.faithful : StakeReclaim.format.Faithful 0 :=
  Message.faithful_of_restores (by decide) fun _ _ a =>
    .number (by decide) a.bucketIndex.toNat_lt rfl <| .octets (by decide) rfl <|
      .done (by simp only [UInt64.ofNat_toNat])

theorem StakeAddDeposit.faithful : StakeAddDeposit.format.Faithful 0 :=
  Message.faithful_of_restores (by decide) fun _ _ a =>
    .number (by decide) a.bucketIndex.toNat_lt rfl <| .text (by decide) rfl <|
      .octets (by decide) rfl <| .done (by simp only [UInt64.ofNat_toNat])

theorem CandidateInfo.faithful : CandidateInfo.format.Faithful 0 :=
  Message.faithful_of_restores (by decide) fun _ _ _ =>
    .text (by decide) rfl <| .text (by decide) rfl <| .text (by decide) rfl <| .done rfl

theorem CandidateRegister.faithful : CandidateRegister.format.Faithful 1 :=
  Message.faithful_of_restores (by decide) fun _ deep a => by
    have candidate : a.candidate.elim ({} : CandidateRegister) (fun v => { candidate := some v }) =
        { candidate := a.candidate } := by cases a.candidate <;> rfl
    have flag : a.autoStake.toNat < UInt64.size :=
      Nat.lt_of_le_of_lt a.autoStake.toNat_le (by decide)
    exact .nested CandidateInfo.faithful deep (by decide) rfl candidate <| .text (by decide) rfl <|
      .number (by decide) (toNat_lt_word _) rfl <|
      .number (by decide) flag rfl <| .text (by decide) rfl <|
      .octets (by decide) rfl <| .done (by simp only [UInt32.ofNat_toNat, toNat_bne_zero])

theorem Payload.carriesCase {depth : Nat} (deep : 2 ≤ depth) (p : Payload)
    (sized : ((Payload.cases.findSome? fun c => c.write? p).getD []).length < UInt64.size) :
    Field.CarriesCase Payload.cases depth p := by
  cases p with
  | transfer b =>
    exact Field.carriesCase_of Transfer.faithful (by omega) (by decide) sized rfl rfl rfl
  | execution b =>
    exact Field.carriesCase_of Execution.faithful (by omega) (by decide) sized rfl rfl rfl
  | depositToRewardingFund b =>
    exact Field.carriesCase_of (FundMovement.faithful _) (by omega) (by decide) sized rfl rfl rfl
  | claimFromRewardingFund b =>
    exact Field.carriesCase_of (FundMovement.faithful _) (by omega) (by decide) sized rfl rfl rfl
  | grantReward b =>
    exact Field.carriesCase_of GrantReward.faithful (by omega) (by decide) sized rfl rfl rfl
  | stakeCreate b =>
    exact Field.carriesCase_of StakeCreate.faithful (by omega) (by decide) sized rfl rfl rfl
  | stakeUnstake b =>
    exact Field.carriesCase_of StakeReclaim.faithful (by omega) (by decide) sized rfl rfl rfl
  | stakeWithdraw b =>
    exact Field.carriesCase_of StakeReclaim.faithful (by omega) (by decide) sized rfl rfl rfl
  | stakeAddDeposit b =>
    exact Field.carriesCase_of StakeAddDeposit.faithful (by omega) (by decide) sized rfl rfl rfl
  | candidateRegister b =>
    exact Field.carriesCase_of CandidateRegister.faithful (by omega) (by decide) sized rfl rfl rfl

theorem ActionCore.faithful : ActionCore.format.Faithful 2 :=
  Message.faithful_of_restores (by decide) fun _ deep a => by
    have payload (s : ActionCore) (fresh : s.payload = none) :
        a.payload.elim s (fun v => { s with payload := some v }) =
          { s with payload := a.payload } := by
      cases a.payload with
      | none =>
        cases s
        cases fresh
        rfl
      | some p => rfl
    exact .number (by decide) (toNat_lt_word _) rfl <| .number (by decide) a.nonce.toNat_lt rfl <|
      .number (by decide) a.gasLimit.toNat_lt rfl <| .text (by decide) rfl <|
      .number (by decide) (toNat_lt_word _) rfl <|
      .oneOf (Payload.carriesCase deep) rfl (payload _ rfl) <|
      .done (by simp only [UInt32.ofNat_toNat, UInt64.ofNat_toNat])

/-- An action is read back when each of its three parts has a length. -/
theorem Action.decode_encode {a : Action}
    (core : ∀ c, a.core = some c → (ActionCore.format.encode c).length < UInt64.size)
    (key : a.senderKey.length < UInt64.size) (signature : a.signature.length < UInt64.size) :
    Action.format.decode (Action.format.encode a) = .ok a := by
  have restored : a.core.elim ({} : Action) (fun v => { core := some v }) = { core := a.core } := by
    cases a.core <;> rfl
  have carried : Field.Carries
      (.nested 1 "core" ActionCore.format (·.core) fun t v => { t with core := some v })
      Message.maxDepth a ({} : Action) { core := a.core } :=
    restored ▸ Field.carries_nested ActionCore.faithful (by decide) (by decide) core rfl
  exact Message.decode_of_carried (by decide) <|
    .cons carried <| .cons (Field.carries_octets (by decide) key rfl) <|
    .cons (Field.carries_octets (by decide) signature rfl) .nil

/-- An unsigned action is read back when each of its two parts has a length. -/
theorem UnsignedAction.decode_encode {u : UnsignedAction} (core : u.core.length < UInt64.size)
    (sender : (Bytes.ofText u.sender).length < UInt64.size) :
    UnsignedAction.format.decode (UnsignedAction.format.encode u) = .ok u :=
  Message.decode_of_carried (by decide) <|
    .cons (Field.carries_octets (by decide) core rfl) <|
    .cons (Field.carries_text (by decide) sender rfl) .nil

end LedgerGateway
