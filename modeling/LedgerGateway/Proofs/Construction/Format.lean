import LedgerGateway.Proofs.Construction.Options

/-!
# Requests and answers are read back from JSON

Clients carry what one stage of a construction answers to the next one, so every datum that travels
must be read as it was written. Writer and reader follow rules of their own for each field: some are
left out when they are empty, some are null, amounts and accounts are texts. Main statement: nothing
is lost on the way (`json_survives`), as long as no multiplier is infinite or no number, since JSON
has no text for those.
-/

namespace LedgerGateway

open Json (ReadsBack)

theorem KeyText.json_back : ReadsBack KeyText.ofJson KeyText.toJson := by
  intro k
  apply Json.Record.read_members
  · decide
  · rfl
  · rintro r ⟨hex, curve⟩
    rw [Json.Record.required_back Json.text_back hex,
      Json.Record.required_back Json.text_back curve]
    rfl

theorem SigningPayload.json_back : ReadsBack SigningPayload.ofJson SigningPayload.toJson := by
  intro p
  apply Json.Record.read_members
  · decide
  · rfl
  · rintro r ⟨account, hex, type⟩
    rw [Json.Record.required_back account_back account,
      Json.Record.required_back Json.text_back hex, Json.Record.required_back Json.text_back type]
    rfl

theorem SignatureText.json_back : ReadsBack SignatureText.ofJson SignatureText.toJson := by
  intro s
  apply Json.Record.read_members
  · decide
  · rfl
  · rintro r ⟨payload, key, type, hex⟩
    rw [Json.Record.required_back SigningPayload.json_back payload,
      Json.Record.required_back KeyText.json_back key,
      Json.Record.required_back Json.text_back type, Json.Record.required_back Json.text_back hex]
    rfl

theorem ActionParameters.json_back : ReadsBack ActionParameters.ofJson ActionParameters.toJson := by
  intro p
  apply Json.Record.read_members
  · decide
  · rfl
  · rintro r ⟨nonce, gasLimit, gasPrice⟩
    rw [Json.Record.required_back Json.word_back nonce,
      Json.Record.required_back Json.word_back gasLimit,
      Json.Record.required_back Json.word_back gasPrice]
    rfl

theorem PreprocessRequest.json_back (filler : Json.Filler) {q : PreprocessRequest}
    (finite : ∀ m ∈ q.feeMultiplier, m.isFinite = true) : read filler q.toJson = .ok q := by
  apply Json.Record.read_members
  · decide
  · rfl
  · rintro r ⟨operations, metadata, maxFee, multiplier⟩
    rw [Json.map_ofBinary finite] at multiplier
    rw [ofRecord,
      Json.Record.required_back (Json.list_back (Operation.json_back filler)) operations,
      Json.Record.nullable_back Json.members_back (fun _ => Json.noConfusion) metadata,
      Json.Record.present_back (Json.list_back Amount.json_back) maxFee,
      Json.Record.nullable_back Json.binary_back (fun _ => Json.noConfusion) multiplier]
    rfl

theorem MetadataRequest.json_back {q : MetadataRequest}
    (finite : ∀ m ∈ q.options.feeMultiplier, m.isFinite = true) : ofJson q.toJson = .ok q := by
  apply Json.Record.read_members
  · decide
  · rfl
  · rintro r ⟨options, keys⟩
    rw [ofRecord, Json.Record.required_of_read (TransferOptions.json_back finite) options,
      Json.Record.present_back (Json.list_back KeyText.json_back) keys]
    rfl

theorem MetadataResponse.json_back : ReadsBack MetadataResponse.ofJson MetadataResponse.toJson := by
  intro p
  apply Json.Record.read_members
  · decide
  · rfl
  · rintro r ⟨parameters, fees⟩
    rw [Json.Record.required_back ActionParameters.json_back parameters,
      Json.Record.required_back (Json.list_back Amount.json_back) fees]
    rfl

theorem PayloadsRequest.json_back (filler : Json.Filler) : ReadsBack (read filler) toJson := by
  intro q
  apply Json.Record.read_members
  · decide
  · rfl
  · rintro r ⟨operations, parameters, keys⟩
    rw [ofRecord,
      Json.Record.required_back (Json.list_back (Operation.json_back filler)) operations,
      Json.Record.required_back ActionParameters.json_back parameters,
      Json.Record.present_back (Json.list_back KeyText.json_back) keys]
    rfl

theorem CombineRequest.json_back : ReadsBack CombineRequest.ofJson CombineRequest.toJson := by
  intro q
  apply Json.Record.read_members
  · decide
  · rfl
  · rintro r ⟨transaction, signatures⟩
    rw [CombineRequest.ofRecord, Json.Record.required_back Json.text_back transaction,
      Json.Record.required_back (Json.list_back SignatureText.json_back) signatures]
    rfl

theorem ParsedTransaction.json_back :
    ReadsBack ParsedTransaction.ofJson ParsedTransaction.toJson := by
  intro p
  apply Json.Record.read_present
  · decide
  · rfl
  · rintro r ⟨operations, signers, parameters⟩
    have all :
        ReadsBack (Json.asList Operation.ofJson) fun os => .array (os.map Operation.toJson) :=
      Json.list_back (Operation.json_back .null)
    rw [Json.Record.required_back all operations, Json.Record.omitted_back account_back signers,
      Json.Record.required_back ActionParameters.json_back parameters]
    rfl

/-- Whatever travels between clients and endpoints is read from its JSON value as what it was:
blocks and all that they are made of, and the requests and answers that are handed from stage to
stage. Requests are read alike where names may stand over null alone (`.null`) and where they may
stand over an empty object too. -/
theorem json_survives :
    ReadsBack Amount.ofJson Amount.toJson ∧
    (∀ filler, ReadsBack (Operation.read filler) Operation.toJson) ∧
    ReadsBack Transaction.ofJson Transaction.toJson ∧
    ReadsBack Block.ofJson Block.toJson ∧
    (∀ filler (q : PreprocessRequest), (∀ m ∈ q.feeMultiplier, m.isFinite = true) →
      PreprocessRequest.read filler q.toJson = .ok q) ∧
    (∀ q : MetadataRequest, (∀ m ∈ q.options.feeMultiplier, m.isFinite = true) →
      MetadataRequest.ofJson q.toJson = .ok q) ∧
    ReadsBack MetadataResponse.ofJson MetadataResponse.toJson ∧
    (∀ filler, ReadsBack (PayloadsRequest.read filler) PayloadsRequest.toJson) ∧
    ReadsBack CombineRequest.ofJson CombineRequest.toJson ∧
    ReadsBack ParsedTransaction.ofJson ParsedTransaction.toJson := by
  refine ⟨Amount.json_back, Operation.json_back, Transaction.json_back, Block.json_back,
    ?_, ?_, MetadataResponse.json_back, PayloadsRequest.json_back, CombineRequest.json_back,
    ParsedTransaction.json_back⟩
  · intro filler q finite
    exact PreprocessRequest.json_back filler finite
  · intro q finite
    exact MetadataRequest.json_back finite

namespace Specimen

/-- The wishes have a multiplier, metadata with a null in it, and a limit for the fee. -/
theorem wish_survives :
    PreprocessRequest.read .nullOrEmpty wish.toJson = .ok wish ∧
      MetadataRequest.ofJson (MetadataRequest.toJson ⟨wishes, []⟩) = .ok ⟨wishes, []⟩ := by
  obtain ⟨-, -, -, -, preprocess, metadata, -⟩ := json_survives
  have finite : ∀ m ∈ wish.feeMultiplier, m.isFinite = true := by
    rintro m ⟨⟩
    decide
  exact ⟨preprocess .nullOrEmpty wish finite, metadata ⟨wishes, []⟩ finite⟩

end Specimen

end LedgerGateway
