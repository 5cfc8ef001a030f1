import LedgerGateway.Construction.Format
import LedgerGateway.Proofs.Construction.Suggestion

/-!
# What a transfer is completed with

Whatever the sender has fixed is taken as it is, and the node is asked only for the rest, until an
answer leaves nothing to go on with. Each query is asked at most once, so a node that changes in
between is no different from one that always answers as it did (`heard`).
-/

namespace LedgerGateway.Suggestion

open Talk (fault? upTo Asks)

/-- What comes of asking for the nonce: the next one of an account. -/
def askedNonce (node : Responder) (account : Address) : Except ConstructionError UInt64 :=
  (node (.account account)).mapError .nonce >>= fun state => .ok state.pendingNonce

/-- What comes of asking for the price: the usual one, or its multiple. -/
def askedPrice (o : TransferOptions) (node : Responder) : Except ConstructionError UInt64 :=
  (node .gasPrice).mapError .suggestGasPrice >>= fun price =>
    match o.feeMultiplier with
    | some m => scaledPrice price m
    | none => .ok price

/-- What comes of asking for the limit: an estimate for a draft. -/
def askedLimit (node : Responder) (draft : Action) : Except ConstructionError UInt64 :=
  (node (.estimateGas draft)).mapError .estimateGas

/-- Why a completion ends with the answer to a query: the node failed, or its price cannot
be multiplied. -/
def objection (o : TransferOptions) (node : Responder) : Query → Option ConstructionError
  | .account address => fault? (askedNonce node address)
  | .gasPrice => fault? (askedPrice o node)
  | .estimateGas draft => fault? (askedLimit node draft)
  | _ => none

/-- What the sender has not fixed, in the order in which it is asked for. -/
def missing (o : TransferOptions) (draft : Action) : List Query :=
  (if o.nonce.isNone then [.account o.sender] else []) ++
    ((if o.gasPrice.isNone then [.gasPrice] else []) ++
      if o.gasLimit.isNone then [.estimateGas draft] else [])

/-- What is fixed is taken as it is; the rest is taken from the node, which must not give reason for
an objection. -/
structure Known (o : TransferOptions) (node : Responder) (draft : Action) (p : ActionParameters) :
    Prop where
  nonce : (o.nonce <|> (askedNonce node o.sender).toOption) = some p.nonce
  gasPrice : (o.gasPrice <|> (askedPrice o node).toOption) = some p.gasPrice
  gasLimit : (o.gasLimit <|> (askedLimit node draft).toOption) = some p.gasLimit

variable {o : TransferOptions} {ctx : ConstructionContext} {node : Responder}

theorem nonce_asks :
    Asks node (objection o node) (if o.nonce.isNone then [.account o.sender] else [])
      (fun r => ∃ n, r = .ok n ∧ (o.nonce <|> (askedNonce node o.sender).toOption) = some n)
      (nonce o) := by
  unfold nonce
  cases o.nonce with
  | some n => exact .known ⟨n, rfl, rfl⟩
  | none => exact .answered (fun _ => rfl) rfl

theorem gasPrice_asks :
    Asks node (objection o node) (if o.gasPrice.isNone then [.gasPrice] else [])
      (fun r => ∃ p, r = .ok p ∧ (o.gasPrice <|> (askedPrice o node).toOption) = some p)
      (gasPrice o) := by
  unfold gasPrice
  cases o.gasPrice with
  | some p => exact .known ⟨p, rfl, rfl⟩
  | none =>
    refine .answered (fun price => ?_) rfl
    cases o.feeMultiplier <;> rfl

theorem gasLimit_asks (nonce price : UInt64) :
    Asks node (objection o node)
      (if o.gasLimit.isNone then [.estimateGas (draft o nonce price ctx)] else [])
      (fun r => ∃ l, r = .ok l ∧
        (o.gasLimit <|> (askedLimit node (draft o nonce price ctx)).toOption) = some l)
      (gasLimit o nonce price ctx) := by
  unfold gasLimit
  cases o.gasLimit with
  | some l => exact .known ⟨l, rfl, rfl⟩
  | none => exact .one rfl rfl rfl

/-- The fee that parameters allow. -/
def feeOf (p : ActionParameters) : Nat := p.gasPrice.toNat * p.gasLimit.toNat

/-- Completing asks for what is missing, and only then looks at the fee. The draft is one for the
nonce and the price that were found; where one of them was not, it is never sent. -/
theorem ofOptions_asks (o : TransferOptions) (ctx : ConstructionContext) (node : Responder) :
    ∃ draft : Action,
      (∀ nonce price, (o.nonce <|> (askedNonce node o.sender).toOption) = some nonce →
        (o.gasPrice <|> (askedPrice o node).toOption) = some price →
        draft = Suggestion.draft o nonce price ctx) ∧
      Asks node (objection o node) (missing o draft)
        (fun r => ∃ p, Known o node draft p ∧
          r = requireWithin (feeOf p) o.maxFee >>= fun _ => .ok ⟨p, ⟨feeOf p, ctx.currency⟩⟩)
        (ofOptions o ctx) := by
  -- Without a nonce or a price the draft is not reached, so any number does in their place.
  refine ⟨Suggestion.draft o ((o.nonce <|> (askedNonce node o.sender).toOption).getD 0)
      ((o.gasPrice <|> (askedPrice o node).toOption).getD 0) ctx,
    fun nonce price hnonce hprice => ?_, ?_⟩
  · rw [hnonce, hprice, Option.getD_some, Option.getD_some]
  · refine nonce_asks.bind fun nonce hnonce => gasPrice_asks.bind fun price hprice => ?_
    rw [hnonce, hprice, Option.getD_some, Option.getD_some, ← List.append_nil (ite _ _ _)]
    refine (gasLimit_asks nonce price).bind fun limit hlimit => ?_
    rw [Talk.ofExcept_bind_pure]
    exact .known ⟨⟨nonce, limit, price⟩, ⟨hnonce, hprice, hlimit⟩, rfl⟩

theorem requireWithin_above {fee : Nat} {limit : Amount} (h : limit.value.toNat < fee) :
    requireWithin fee (some limit) = .error (.exceededFee fee limit.value.toNat) := if_pos h

theorem requireWithin_eq_ok {fee : Nat} {most : Option Amount} :
    requireWithin fee most = .ok () ↔ ∀ limit ∈ most, fee ≤ limit.value.toNat := by
  cases most with
  | none => simp [requireWithin]
  | some limit =>
    by_cases above : limit.value.toNat < fee
    · simp [requireWithin, above]
    · simp [requireWithin, Nat.not_lt.mp above]

/-- A response gives what is known, and as the only fee what that allows, which is not above the
limit of the sender. -/
structure Given (o : TransferOptions) (ctx : ConstructionContext) (node : Responder)
    (draft : Action) (r : MetadataResponse) : Prop where
  parameters : Known o node draft r.parameters
  fees : r.fees = [⟨feeOf r.parameters, ctx.currency⟩]
  limited : ∀ limit ∈ o.maxFee, (feeOf r.parameters : Int) ≤ max 0 limit.value

/-- What was asked to complete a transfer, and with what that ended. The queries are what is
missing, up to the first answer that leaves nothing to go on with; the draft is a transfer at the
nonce and the price that were chosen before it is sent. Without an objection all parameters are
known, and only a fee above the limit of the sender is refused; otherwise they are the parameters of
the response. -/
structure Completed (o : TransferOptions) (ctx : ConstructionContext) (node : Responder)
    (draft : Action) (asked : List Query) (outcome : Except ConstructionError Suggestion) :
    Prop where
  draft_core : ∀ nonce price, (o.nonce <|> (askedNonce node o.sender).toOption) = some nonce →
    (o.gasPrice <|> (askedPrice o node).toOption) = some price →
    draft.core = some
      { version := 1, nonce, gasLimit := 0, gasPrice := Decimal.natText price.toNat,
        chainId := ctx.chainId,
        payload := some (.transfer ⟨Decimal.natText o.amount.value.toNat, o.recipient.text, []⟩) }
  asked_missing : asked = upTo (objection o node) (missing o draft)
  stopped : ∀ e, (missing o draft).findSome? (objection o node) = some e → outcome = .error e
  passed : (missing o draft).findSome? (objection o node) = none → ∃ p, Known o node draft p ∧
    (∀ limit ∈ o.maxFee, limit.value.toNat < feeOf p →
      outcome = .error (.exceededFee (feeOf p) limit.value.toNat)) ∧
    ((∀ limit ∈ o.maxFee, feeOf p ≤ limit.value.toNat) →
      outcome.map MetadataResponse.ofSuggestion = .ok ⟨p, [⟨feeOf p, ctx.currency⟩]⟩)
  given : ∀ s, outcome = .ok s → Given o ctx node draft (MetadataResponse.ofSuggestion s)

theorem ofOptions_completed (o : TransferOptions) (ctx : ConstructionContext) (node : Responder) :
    ∃ draft, Completed o ctx node draft (Talk.queries node (ofOptions o ctx))
      (Talk.result node (ofOptions o ctx)) := by
  obtain ⟨draft, drafted, asks⟩ := ofOptions_asks o ctx node
  refine ⟨draft, fun nonce price hnonce hprice => ?_, asks.asked, asks.stopped, fun none => ?_,
    fun s given => ?_⟩
  · rw [drafted nonce price hnonce hprice]
    rfl
  · obtain ⟨p, known, ends⟩ := asks.passed none
    refine ⟨p, known, fun limit wanted above => ?_, fun within => ?_⟩
    · rw [ends, Option.mem_def.mp wanted, requireWithin_above above]
      rfl
    · rw [ends, requireWithin_eq_ok.mpr within]
      rfl
  · cases objected : (missing o draft).findSome? (objection o node) with
    | some e => cases (asks.stopped e objected).symm.trans given
    | none =>
      obtain ⟨p, known, ends⟩ := asks.passed objected
      obtain ⟨⟨⟩, within, made⟩ := Outcome.bind_eq_ok.mp (ends.symm.trans given)
      cases made
      refine ⟨known, rfl, fun limit wanted => ?_⟩
      have most := requireWithin_eq_ok.mp within limit wanted
      change (feeOf p : Int) ≤ max 0 limit.value
      omega

/-- How many queries come before this one, if it is missing. -/
def before (o : TransferOptions) : Query → Nat
  | .gasPrice => if o.nonce.isNone then 1 else 0
  | .estimateGas _ => (if o.nonce.isNone then 1 else 0) + if o.gasPrice.isNone then 1 else 0
  | _ => 0

theorem before_of_missing {draft : Action} {i : Nat} {q : Query}
    (h : (missing o draft)[i]? = some q) : before o q = i := by
  grind [missing, before]

/-- A transfer is completed with what the sender has fixed and with what the node says of the rest.
The node may change between the queries; `heard` is what it answered to those that were asked, and
nothing else of `heard` matters. -/
theorem ofOptions_completes (o : TransferOptions) (ctx : ConstructionContext)
    (node : Nat → Responder) (moment : Nat) :
    ∃ heard draft,
      (∀ i q, ((ofOptions o ctx).runFrom node moment).2[i]? = some q →
        heard q = node (moment + i) q) ∧
      Completed o ctx heard draft ((ofOptions o ctx).runFrom node moment).2
        ((ofOptions o ctx).runFrom node moment).1 := by
  let heard : Responder := fun q => node (moment + before o q) q
  obtain ⟨draft, completed⟩ := ofOptions_completed o ctx heard
  have agree : ∀ i q, ((ofOptions o ctx).runFrom (fun _ => heard) 0).2[i]? = some q →
      node (moment + i) q = heard q := by
    intro i q asked
    have known : (Talk.queries heard (ofOptions o ctx))[i]? = some q := asked
    rw [completed.asked_missing] at known
    obtain ⟨inside, rfl⟩ := List.getElem?_eq_some_iff.mp known
    have position := before_of_missing (List.prefix_iff_getElem?.mp Talk.upTo_begins i inside)
    simp only [heard, position]
  have same : (ofOptions o ctx).runFrom node moment =
      (ofOptions o ctx).runFrom (fun _ => heard) 0 :=
    Talk.runFrom_congr _ agree
  rw [same]
  exact ⟨heard, draft, fun i q asked => (agree i q asked).symm, completed⟩

end LedgerGateway.Suggestion
