import LedgerGateway.Ledger.Format
import LedgerGateway.Proofs.Decimal
import LedgerGateway.Proofs.Json.Record

/-!
# Blocks are read back from JSON

The value of an amount is a text, so it is read back whatever its size. Every integer has one
text: a minus sign only before negative numbers, and no zeros in front. Operations leave out
what they do not have, and are read back in every way of reading names; transactions and blocks
are lists of them.
-/

namespace LedgerGateway

open Outcome
open Json (ReadsBack)

namespace Amount

theorem splitSign_digits (n : Nat) : splitSign (Decimal.digits n) = (false, Decimal.digits n) := by
  unfold splitSign
  split
  · rename_i rest minus
    have digit := Decimal.isDigit_digits n '-' (by simp [minus])
    exact absurd digit (by decide)
  · rfl

theorem readValue_valueText (v : Int) : readValue (valueText v) = .ok v := by
  cases v with
  | ofNat n =>
    have split : splitSign (valueText (.ofNat n)).toList = (false, Decimal.digits n) := by
      rw [valueText, Decimal.intText, String.toList_ofList]
      exact splitSign_digits n
    simp only [readValue, split, Decimal.nat?_digits, if_neg (Decimal.no_spare_zero n)]
    rfl
  | negSucc n =>
    have split : splitSign (valueText (.negSucc n)).toList = (true, Decimal.digits (n + 1)) := by
      rw [valueText, Decimal.intText, String.toList_ofList]
      rfl
    simp only [readValue, split, Decimal.nat?_digits, if_neg (Decimal.no_spare_zero (n + 1))]
    rfl

theorem value_back : ReadsBack valueOfJson fun v => .text (valueText v) := by
  intro v
  rw [valueOfJson, bind_eq_ok]
  exact ⟨valueText v, rfl, mapError_eq_ok.mpr (readValue_valueText v)⟩

end Amount

theorem Currency.json_back : ReadsBack Currency.ofJson Currency.toJson := by
  intro c
  apply Json.Record.read_members
  · decide
  · rfl
  · rintro r ⟨symbol, decimals⟩
    rw [Json.Record.required_back Json.text_back symbol,
      Json.Record.required_back Json.ofUInt32_back decimals]
    rfl

theorem Amount.json_back : ReadsBack Amount.ofJson Amount.toJson := by
  intro a
  apply Json.Record.read_members
  · decide
  · rfl
  · rintro r ⟨value, currency⟩
    rw [Json.Record.required_back Amount.value_back value,
      Json.Record.required_back Currency.json_back currency]
    rfl

theorem OperationType.json_back (filler : Json.Filler) : ReadsBack (read filler) toJson :=
  Json.name_back ofName?_name filler

theorem OperationStatus.json_back (filler : Json.Filler) : ReadsBack (read filler) toJson :=
  Json.name_back ofName?_name filler

theorem index_back : ReadsBack indexOfJson indexToJson := by
  intro index
  apply Json.Record.read_members
  · decide
  · rfl
  · intro r written
    exact Json.Record.required_back Json.word_back written

theorem account_back : ReadsBack accountOfJson accountToJson := by
  intro account
  apply Json.Record.read_members
  · decide
  · rfl
  · intro r written
    exact Json.Record.required_back Json.text_back written

theorem hash_back : ReadsBack hashOfJson hashToJson := by
  intro hash
  apply Json.Record.read_members
  · decide
  · rfl
  · intro r written
    exact Json.Record.required_back Json.text_back written

theorem Operation.json_back (filler : Json.Filler) : ReadsBack (read filler) toJson := by
  intro o
  apply Json.Record.read_present
  · decide
  · rfl
  · rintro r ⟨index, related, type, status, account, amount, metadata⟩
    rw [Json.Record.required_back index_back index, Json.Record.omitted_back index_back related,
      Json.Record.required_back (OperationType.json_back filler) type,
      Json.Record.optional_back (OperationStatus.json_back filler) (fun _ => Json.noConfusion)
        status,
      Json.Record.required_back account_back account,
      Json.Record.required_back Amount.json_back amount,
      Json.Record.optional_back Json.members_back (fun _ => Json.noConfusion) metadata]
    rfl

theorem Transaction.json_back : ReadsBack Transaction.ofJson Transaction.toJson := by
  intro t
  apply Json.Record.read_members
  · decide
  · rfl
  · rintro r ⟨hash, operations⟩
    have all :
        ReadsBack (Json.asList Operation.ofJson) fun os => .array (os.map Operation.toJson) :=
      Json.list_back (Operation.json_back .null)
    rw [Json.Record.required_back hash_back hash, Json.Record.required_back all operations]
    rfl

theorem BlockIdentifier.json_back : ReadsBack BlockIdentifier.ofJson BlockIdentifier.toJson := by
  intro b
  apply Json.Record.read_members
  · decide
  · rfl
  · rintro r ⟨index, hash⟩
    rw [Json.Record.required_back Json.word_back index,
      Json.Record.required_back Json.text_back hash]
    rfl

theorem Block.json_back : ReadsBack Block.ofJson Block.toJson := by
  intro b
  apply Json.Record.read_members
  · decide
  · rfl
  · rintro r ⟨identifier, parent, timestamp, transactions⟩
    rw [Json.Record.required_back BlockIdentifier.json_back identifier,
      Json.Record.required_back BlockIdentifier.json_back parent,
      Json.Record.required_back Json.ofInt64_back timestamp,
      Json.Record.required_back (Json.list_back Transaction.json_back) transactions]
    rfl

end LedgerGateway
