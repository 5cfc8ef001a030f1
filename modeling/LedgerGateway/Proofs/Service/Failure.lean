import LedgerGateway.Proofs.Node.Failure
import LedgerGateway.Proofs.Service.Response

/-!
# What clients are told of a failing node

A query that fails is the last one of its request, and the client is told of nothing but that
failure. Which code it is told by depends on what the endpoint wanted with the query (`codeOf`), and
whether another try may help depends on the code, except that one always may while the node cannot
be reached. Main statement: `failure_told`.
-/

namespace LedgerGateway

open Talk (Breaks FailsWith)
open Outcome

namespace AddressedEndpoint

/-- What a failed query is blamed for, if the endpoint asks such queries at all, with so many made
before it. The status asks for two blocks, and the second one is the first of the chain. -/
def codeOf (e : AddressedEndpoint) (made : Nat) (q : Query) : Option ErrorCode :=
  match e, q with
  | networkOptions, .serverVersion => some .unableToGetNodeStatus
  | networkStatus, .chainHeight => some .unableToGetNodeStatus
  | networkStatus, .rawBlock _ =>
    some (if made = 2 then .unableToGetGenesisBlock else .unableToGetNodeStatus)
  | accountBalance, .account _ | accountBalance, .rewardingBalance => some .unableToGetAccount
  | accountBalance, .chainHeight | accountBalance, .rawBlock _ => some .unableToGetLatestBlock
  | block, .chainHeight => some .unableToGetLatestBlock
  | block, .rawBlock _ | block, .transferLogs _ => some .unableToGetBlock
  | blockTransaction, .rawBlock _ | blockTransaction, .transferLogOf _ => some .unableToGetBlock
  | mempool, .mempool => some .unableToGetTransactions
  | construction .metadata, .account _ => some .unableToGetNextNonce
  | construction .metadata, .gasPrice => some .unableToGetSuggestGas
  | construction .metadata, .estimateGas _ => some .unableToEstimateGas
  | construction .submit, .submit _ => some .unableToSubmitTransaction
  | _, _ => none

/-- The error is the one of the endpoint's code for the failed query. -/
def Blames (e : AddressedEndpoint) (made : Nat) (q : Query) (failure : NodeError)
    (error : ApiError) : Prop :=
  ∃ code, e.codeOf made q = some code ∧ error = .ofNode code failure

end AddressedEndpoint

namespace Gateway

variable {g : Gateway} {made : Nat}

/-! ### Conversations -/

theorem options_fails : FailsWith (AddressedEndpoint.Blames .networkOptions) made g.options := by
  refine .bind ?_ fun _ _ => .pure _
  unfold nodeVersion
  split
  · exact .bind (.query fun _ => ⟨_, rfl, rfl⟩) fun _ _ => .pure _
  · exact .pure _

end Gateway

/-- The one endpoint that asks the same query for different things. -/
theorem ChainStatus.fetch_fails : FailsWith (AddressedEndpoint.Blames .networkStatus) 0 fetch := by
  refine .query_bind (fun _ => ⟨_, rfl, rfl⟩) fun height => ?_
  refine .query_bind (fun _ => ⟨_, rfl, rfl⟩) fun current => ?_
  refine .query_bind (fun _ => ⟨_, rfl, rfl⟩) fun genesis => ?_
  exact .pure _

theorem AccountBalance.fetch_fails (address : Address) (ctx : LedgerContext) (made : Nat) :
    FailsWith (fun i q failure e => AddressedEndpoint.Blames .accountBalance i q failure e.api) made
      (fetch address ctx) := by
  refine .bind ?_ fun _ state => ?_
  · unfold state
    split
    · exact .bind (.query fun _ => ⟨_, rfl, rfl⟩) fun _ _ => .pure _
    · exact .query fun _ => ⟨_, rfl, rfl⟩
  · refine .bind (.query fun _ => ⟨_, rfl, rfl⟩) fun _ height => ?_
    exact .bind (.query fun _ => ⟨_, rfl, rfl⟩) fun _ tip => .pure _

theorem Block.fetch_fails (height : UInt64) (ctx : LedgerContext) (made : Nat) :
    FailsWith (fun i q failure e => AddressedEndpoint.Blames .block i q failure e.api) made
      (fetch height ctx) := by
  refine .bind (.query fun _ => ⟨_, rfl, rfl⟩) fun _ raw => ?_
  refine .bind (.query fun _ => ⟨_, rfl, rfl⟩) fun _ logs => ?_
  exact .bind (.known _) fun _ _ => .pure _

theorem Transaction.fetch_fails (height : UInt64) (name : String) (ctx : LedgerContext)
    (made : Nat) :
    FailsWith (fun i q failure e => AddressedEndpoint.Blames .blockTransaction i q failure e.api)
      made
      (fetch height name ctx) := by
  refine .bind (.known _) fun _ wanted => ?_
  refine .bind (.query fun _ => ⟨_, rfl, rfl⟩) fun _ raw => ?_
  refine .bind (.known _) fun _ actions => ?_
  split
  · exact .throw _
  · refine .bind (.query fun _ => ⟨_, rfl, rfl⟩) fun _ logs => ?_
    refine .bind (.known _) fun _ groups => ?_
    split
    · exact .throw _
    · refine .bind (.known _) fun _ shown => ?_
      split
      · exact .pure _
      · exact .throw _

theorem Suggestion.ofOptions_fails (o : TransferOptions) (ctx : ConstructionContext) (made : Nat) :
    FailsWith (fun i q failure e =>
      AddressedEndpoint.Blames (.construction .metadata) i q failure e.api) made
      (ofOptions o ctx) := by
  refine .bind ?_ fun _ nonce => .bind ?_ fun _ price => .bind ?_ fun _ limit => ?_
  · unfold Suggestion.nonce
    split
    · exact .pure _
    · exact .bind (.query fun _ => ⟨_, rfl, rfl⟩) fun _ _ => .pure _
  · unfold gasPrice
    split
    · exact .pure _
    · refine .bind (.query fun _ => ⟨_, rfl, rfl⟩) fun _ price => ?_
      split
      · exact .known _
      · exact .pure _
  · unfold gasLimit
    split
    · exact .pure _
    · exact .query fun _ => ⟨_, rfl, rfl⟩
  · exact .bind (.known _) fun _ _ => .pure _

theorem SignedTransaction.submit_fails (transaction : String) (made : Nat) :
    FailsWith (fun i q failure e =>
      AddressedEndpoint.Blames (.construction .submit) i q failure e.api) made
      (submit transaction) := by
  refine .bind (.known _) fun _ action => .bind (.known _) fun _ key => ?_
  refine .bind (.query fun _ => ⟨_, rfl, rfl⟩) fun _ name => ?_
  split <;> exact .pure _

/-- The stages that need no node cannot be failed by one. -/
theorem ConstructionStage.respond_fails {stage : ConstructionStage} {ctx : ConstructionContext}
    {filler : Json.Filler} {request : Json} {act : Answering}
    (h : stage.respond ctx filler request = .ok act) (made : Nat) :
    FailsWith (fun i q failure e =>
      AddressedEndpoint.Blames (.construction stage) i q failure e.api) made act := by
  cases stage with
  | metadata =>
    obtain ⟨q, -, made⟩ := bind_eq_ok.mp h
    obtain rfl := pure_eq_ok.mp made
    exact .bind (Suggestion.ofOptions_fails q.options ctx _) fun _ _ => .pure _
  | submit =>
    obtain ⟨transaction, -, made⟩ := bind_eq_ok.mp h
    obtain rfl := pure_eq_ok.mp made
    exact .bind (SignedTransaction.submit_fails transaction _) fun _ _ => .pure _
  | derive | preprocess | payloads | combine | parse | hash =>
    obtain ⟨q, -, made⟩ := bind_eq_ok.mp h
    obtain rfl := pure_eq_ok.mp made
    exact .known _

namespace Gateway

variable {g : Gateway} {e : AddressedEndpoint} {r : Request} {members : List (String × Json)}
  {talk : Talk Outcome}

/-- A failed query ends in the error that it is blamed for. -/
def Fails (e : AddressedEndpoint) (i : Nat) (q : Query) (failure : NodeError) (o : Outcome) :
    Prop :=
  ∃ error, o.result = .error error ∧ e.Blames i q failure error

theorem outcome_breaks {made : Nat} {serving : Serving} (h : FailsWith e.Blames made serving) :
    Breaks (Fails e) made serving.outcome := by
  apply Breaks.andThen h
  · rintro i q failure r ⟨error, rfl, blamed⟩
    exact ⟨_, rfl, error, rfl, blamed⟩
  · intro i r
    exact trivial

theorem block_breaks (g : Gateway) (q : BlockQuery) : Breaks (Fails .block) 0 (g.block q) := by
  have height : FailsWith (AddressedEndpoint.Blames .block) 0 (g.blockHeight q) := by
    refine .bind (.known _) fun _ _ => .bind (.known _) fun _ _ => ?_
    unfold BlockQuery.height
    split
    · exact .pure _
    · exact .query fun _ => ⟨_, rfl, rfl⟩
  apply Breaks.andThen height
  · rintro i query failure r ⟨error, rfl, blamed⟩
    exact ⟨_, rfl, error, rfl, blamed⟩
  · rintro i (error | height)
    · exact trivial
    · apply Breaks.andThen (Block.fetch_fails height g.config.ledgerContext i)
      · rintro j query failure r ⟨error, rfl, blamed⟩
        exact ⟨_, rfl, error.api, rfl, blamed⟩
      · rintro j (error | b) <;> exact trivial

/-- However an endpoint answers, a failed query ends it. -/
theorem plan_breaks (planned : g.plan e members = .ok talk) : Breaks (Fails e) 0 talk := by
  cases e with
  | networkOptions =>
    obtain rfl := pure_eq_ok.mp planned
    exact outcome_breaks options_fails
  | networkStatus =>
    obtain rfl := pure_eq_ok.mp planned
    refine outcome_breaks (.known_bind fun _ => ?_)
    exact .bind ChainStatus.fetch_fails fun _ _ => .pure _
  | mempool =>
    obtain rfl := pure_eq_ok.mp planned
    refine outcome_breaks (.known_bind fun _ => ?_)
    exact .bind (.query fun _ => ⟨_, rfl, rfl⟩) fun _ _ => .pure _
  | accountBalance =>
    obtain ⟨q, -, made⟩ := bind_eq_ok.mp planned
    obtain rfl := pure_eq_ok.mp made
    refine outcome_breaks (.known_bind fun address => .known_bind fun _ => ?_)
    exact .bind (.adapt (AccountBalance.fetch_fails address _ _)) fun _ _ => .pure _
  | block =>
    obtain ⟨q, -, made⟩ := bind_eq_ok.mp planned
    obtain rfl := pure_eq_ok.mp made
    exact block_breaks g q
  | blockTransaction =>
    obtain ⟨q, -, made⟩ := bind_eq_ok.mp planned
    obtain rfl := pure_eq_ok.mp made
    refine outcome_breaks (.known_bind fun _ => ?_)
    exact .bind (.adapt (Transaction.fetch_fails _ _ _ _)) fun _ _ => .pure _
  | construction stage =>
    obtain ⟨act, read, made⟩ := bind_eq_ok.mp planned
    obtain rfl := pure_eq_ok.mp made
    exact outcome_breaks (.known_bind fun _ => .adapt (ConstructionStage.respond_fails read _))

theorem answer_breaks (g : Gateway) (e : AddressedEndpoint) (r : Request) :
    Breaks (Fails e) 0 (g.answer (.addressed e) r) := by
  cases accepted : g.accept e r with
  | error error =>
    simp only [answer, accepted]
    exact trivial
  | ok talk =>
    obtain ⟨members, planned⟩ := plan_of_accept accepted
    simp only [answer, accepted]
    exact plan_breaks planned

end Gateway

/-- The endpoints blame failures for these codes only. -/
theorem AddressedEndpoint.number_of_codeOf {e : AddressedEndpoint} {made : Nat} {q : Query}
    {code : ErrorCode} (h : e.codeOf made q = some code) :
    code.number ∈ [18, 7, 8, 6, 12, 14, 16, 27, 28, 15] := by
  cases e with
  | construction stage => cases stage <;> cases q <;> cases h <;> decide
  | networkStatus =>
    cases q with
    | rawBlock height =>
      obtain rfl := Option.some.inj h
      split <;> decide
    | _ => cases h <;> decide
  | _ => cases q <;> cases h <;> decide

/-- The entry that a failure is told by. One more try is always allowed while the node
cannot be reached. -/
theorem ApiError.ofNode_told (code : ErrorCode) (failure : NodeError) : ∃ entry ∈ catalog,
    entry.code = (if failure.isUnavailable = true ∧
      ¬ code.isRetriable = true then 31 else .ofNat code.number) ∧
    (failure.isUnavailable = true → entry.retriable = true) ∧
    (ofNode code failure).body =
      { entry with details := some [("context", .text failure.message)] } := by
  by_cases moved : failure.isUnavailable = true ∧ ¬ code.isRetriable = true
  · have told : ofNode code failure = ⟨.unableToReachNode, some failure.message⟩ :=
      if_pos (by simpa using moved)
    refine ⟨ErrorCode.body .unableToReachNode, ErrorCode.body_mem_catalog _, (if_pos moved).symm,
      fun _ => rfl, ?_⟩
    rw [told]
    rfl
  · have told : ofNode code failure = ⟨code, some failure.message⟩ := if_neg (by simpa using moved)
    refine ⟨code.body, ErrorCode.body_mem_catalog _, (if_neg moved).symm, fun unreachable => ?_, ?_⟩
    · by_contra final
      exact moved ⟨unreachable, final⟩
    · rw [told]
      rfl

/-- A query that fails is the last one of its request. The response is the entry of the
catalog for what the endpoint wanted with it, or the one for an unreachable node, and tells
nothing but the failure. -/
theorem Gateway.failure_told (g : Gateway) {r : Request} {e : AddressedEndpoint}
    (sent : r.IsTo (.addressed e)) {m : Metrics} {node : Nat → Responder} {moment k : Nat}
    {q : Query} {failure : NodeError} (asked : ((g.serve r m).runFrom node moment).2[k]? = some q)
    (failed : node (moment + k) q = .error failure) :
    ((g.serve r m).runFrom node moment).2.length = k + 1 ∧
    ∃ code, e.codeOf k q = some code ∧ code.number ∈ [18, 7, 8, 6, 12, 14, 16, 27, 28, 15] ∧
    ∃ entry ∈ catalog,
      entry.code = (if failure.isUnavailable = true ∧
        ¬ code.isRetriable = true then 31 else .ofNat code.number) ∧
      (failure.isUnavailable = true → entry.retriable = true) ∧
      ((g.serve r m).runFrom node moment).1.1 =
        ⟨500,
          .json { entry with details := some [("context", .text failure.message)] }.toJson⟩ := by
  rw [runFrom_serve g sent] at asked ⊢
  obtain ⟨last, error, ends, code, blamed, rfl⟩ := (answer_breaks g e r).of_runFrom asked failed
  obtain ⟨entry, listed, numbered, again, told⟩ := ApiError.ofNode_told code failure
  rw [Nat.zero_add] at blamed
  refine ⟨last, code, blamed, AddressedEndpoint.number_of_codeOf blamed, entry, listed,
    numbered, again, ?_⟩
  simp only [ends, Response.ofResult, told]

/-! A node whose chain has one block, which is gone when it is asked for once more. -/

namespace Specimen

def statusRequest : Request where
  method := "POST"
  path := "/network/status"
  contentType := some "application/json"
  body := "\x7b\"network_identifier\":\x7b\"blockchain\":\"IoTeX\",\"network\":\"mainnet\"\x7d\x7d"

def fadingNode : Nat → Responder
  | _, .chainHeight => .ok 1
  | 2, .rawBlock _ => .error (.unavailable "down")
  | _, .rawBlock _ => .ok ⟨1, "ab", "", 0, [], []⟩
  | _, _ => .error (.notFound "")

theorem statusRequest_told : ∃ entry ∈ catalog, entry.code = 7 ∧ entry.retriable = true ∧
    (({} : Gateway).serve statusRequest {}).runFrom fadingNode 0 =
      ((⟨500, .json
          { entry with details := some [("context", .text "node unavailable: down")] }.toJson⟩,
        ((({} : Gateway).serve statusRequest {}).runFrom fadingNode 0).1.2),
        [.chainHeight, .rawBlock 1, .rawBlock 1]) := by
  have sent : statusRequest.IsTo (.addressed .networkStatus) := ⟨by decide, by decide⟩
  have asked : ((({} : Gateway).serve statusRequest {}).runFrom fadingNode 0).2 =
      [.chainHeight, .rawBlock 1, .rawBlock 1] := by decide +kernel
  obtain ⟨-, code, blamed, -, entry, listed, numbered, again, told⟩ :=
    Gateway.failure_told {} sent (k := 2) (q := .rawBlock 1) (by rw [asked]; rfl) rfl
  cases blamed
  exact ⟨entry, listed, numbered, again rfl, Prod.ext (Prod.ext told rfl) asked⟩

end Specimen

end LedgerGateway
