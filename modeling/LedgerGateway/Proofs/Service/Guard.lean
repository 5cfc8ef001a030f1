import LedgerGateway.Proofs.Service.Response

/-!
# What is not meant for the gateway does nothing

Every endpoint that is told a network checks it before anything else that the request says, so a
request for another network is refused without a word to the node. After that check the node is
asked only by endpoints that need it, and by none of them when there is no node. Main statement:
`guarded`, which names the refusals in the order of their checks.
-/

namespace LedgerGateway

open Outcome

/-- The request of the stage can be read. -/
def ConstructionStage.Fits (request : Json) : ConstructionStage → Prop
  | derive => ∃ key, Json.Record.read keyFields keyOfRecord request = .ok key
  | preprocess => ∃ q, PreprocessRequest.read .nullOrEmpty request = .ok q
  | metadata => ∃ q, MetadataRequest.ofJson request = .ok q
  | payloads => ∃ q, PayloadsRequest.read .nullOrEmpty request = .ok q
  | combine => ∃ q, CombineRequest.ofJson request = .ok q
  | parse => ∃ q, ParseRequest.ofJson request = .ok q
  | hash | submit =>
    ∃ transaction, Json.Record.read signedFields signedOfRecord request = .ok transaction

theorem ConstructionStage.respond_succeeds {stage : ConstructionStage} (ctx : ConstructionContext)
    {request : Json} :
    (∃ act, stage.respond ctx .nullOrEmpty request = .ok act) ↔ stage.Fits request := by
  cases stage <;> exact bind_pure_succeeds

/-- A stage that needs no node has its answer as soon as its request is read. -/
theorem ConstructionStage.respond_known {stage : ConstructionStage}
    (alone : stage.needsNode = false) (ctx : ConstructionContext) {request : Json}
    (fits : stage.Fits request) :
    ∃ r, stage.respond ctx .nullOrEmpty request = .ok (Talk.ofExcept r) := by
  cases stage with
  | metadata | submit => cases alone
  | derive | preprocess | payloads | combine | parse | hash =>
    obtain ⟨q, read⟩ := fits
    exact ⟨_, bind_eq_ok.mpr ⟨q, read, rfl⟩⟩

namespace AddressedEndpoint

/-- The members make a request of the endpoint's type. Some endpoints need no members. -/
def Fits (members : List (String × Json)) : AddressedEndpoint → Prop
  | networkOptions | networkStatus | mempool => True
  | accountBalance => ∃ q, AccountQuery.ofJson (.object members) = .ok q
  | block => ∃ q, BlockQuery.ofJson (.object members) = .ok q
  | blockTransaction => ∃ q, TransactionQuery.ofJson (.object members) = .ok q
  | construction stage => stage.Fits (.object members)

/-- Whether the endpoint cannot answer without a node. The options are told without one too. -/
def needsNode : AddressedEndpoint → Bool
  | networkOptions => false
  | construction stage => stage.needsNode
  | _ => true

/-- What is refused for what it asks, before the node is needed for it: a block by its hash alone,
an account that has parts, and a text that is no address. -/
inductive Objects (members : List (String × Json)) : AddressedEndpoint → Int32 → Prop
  | byHash {q : BlockQuery} (read : BlockQuery.ofJson (.object members) = .ok q)
      (index : q.index = none) (hash : q.hash ≠ none) : Objects members block 9
  | address {q : AccountQuery} {e : AddressError}
      (read : AccountQuery.ofJson (.object members) = .ok q) (whole : q.subAccount = none)
      (bad : Address.ofText q.address = .error e) : Objects members accountBalance 10
  | subAccount {q : AccountQuery} (read : AccountQuery.ofJson (.object members) = .ok q)
      (part : q.subAccount ≠ none) : Objects members accountBalance 11

end AddressedEndpoint

/-- The body can be read, and so can what the endpoint wants of it. -/
structure Request.Carries (r : Request) (e : AddressedEndpoint) (body : RequestBody) : Prop where
  read : RequestBody.ofText r.contentType r.body = .ok body
  fits : e.Fits body.members

namespace Gateway

variable {g : Gateway} {e : AddressedEndpoint} {r : Request} {members : List (String × Json)}

/-- The network of the gateway. -/
def network (g : Gateway) : NetworkIdentifier :=
  ⟨g.config.network.blockchain, g.config.network.network, none⟩

/-- What is wrong with the network that a request is meant for. Of several faults the first one
counts. -/
inductive Objects (g : Gateway) : Option NetworkIdentifier → Int32 → Prop
  | missing : Objects g none 5
  | blockchain {n : NetworkIdentifier} (other : n.blockchain ≠ g.network.blockchain) :
      Objects g (some n) 2
  | subNetwork {n : NetworkIdentifier} (blockchain : n.blockchain = g.network.blockchain)
      (part : n.subNetwork ≠ none) : Objects g (some n) 3
  | network {n : NetworkIdentifier} (blockchain : n.blockchain = g.network.blockchain)
      (whole : n.subNetwork = none) (other : n.network ≠ g.network.network) : Objects g (some n) 4

/-- Whatever was asked before and whatever the node is like, the response tells this error and
nothing is asked. -/
def Refuses (g : Gateway) (r : Request) (number : Int32) : Prop :=
  ∀ m node moment, ∃ response counted,
    (g.serve r m).runFrom node moment = ((response, counted), []) ∧ response.Tells number

theorem plan_succeeds : (∃ talk, g.plan e members = .ok talk) ↔ e.Fits members := by
  cases e with
  | networkOptions | networkStatus | mempool => exact ⟨fun _ => trivial, fun _ => ⟨_, rfl⟩⟩
  | accountBalance | block | blockTransaction => exact bind_pure_succeeds
  | construction stage => exact bind_pure_succeeds.trans (ConstructionStage.respond_succeeds _)

/-! ### Refusals -/

/-- What is known to end with an error is refused with the number of its code. -/
theorem refuses_of_answer {error : ApiError} {number : Int32} (sent : r.IsTo (.addressed e))
    (ends : g.answer (.addressed e) r = .done { result := .error error })
    (numbered : .ofNat error.code.number = number) : g.Refuses r number := by
  intro m node moment
  refine ⟨.ofResult r.method (.error error),
    m.record (.addressed e) { result := .error error }, ?_, ?_⟩
  · rw [runFrom_serve g sent, ends]
    rfl
  · rw [← numbered]
    exact Response.tells_ofResult error

theorem answer_of_unfit (g : Gateway) (unfit : ∀ body, ¬ r.Carries e body) :
    ∃ details, g.answer (.addressed e) r =
      .done { result := .error ⟨.invalidInputParam, details⟩ } := by
  cases read : RequestBody.ofText r.contentType r.body with
  | error fault =>
    refine ⟨some fault.message, ?_⟩
    simp only [answer, accept, read]
    rfl
  | ok body =>
    cases planned : g.plan e body.members with
    | error mismatch =>
      refine ⟨some (BodyFault.message (.json .shape)), ?_⟩
      simp only [answer, accept, bind, Except.bind, Except.mapError, read, planned]
      rfl
    | ok talk => exact absurd ⟨read, plan_succeeds.mp ⟨talk, planned⟩⟩ (unfit body)

/-- What fits is answered as planned, unless its network is refused. -/
theorem answer_of_carries {body : RequestBody} {talk : Talk Outcome} (carries : r.Carries e body)
    (planned : g.plan e body.members = .ok talk) :
    g.answer (.addressed e) r = match g.checkNetwork body.network with
      | .ok () => talk
      | .error error => .done { result := .error error } := by
  simp only [answer, accept, bind, Except.bind, Except.mapError, carries.read, planned]
  cases g.checkNetwork body.network <;> rfl

theorem checkNetwork_of_objects {n : Option NetworkIdentifier} {number : Int32}
    (h : g.Objects n number) :
    ∃ error, g.checkNetwork n = .error error ∧ .ofNat error.code.number = number := by
  cases h with
  | missing => exact ⟨_, rfl, rfl⟩
  | blockchain other => exact ⟨_, if_pos other, rfl⟩
  | subNetwork blockchain part =>
    refine ⟨_, (if_neg (not_not.mpr blockchain)).trans (if_pos ?_), rfl⟩
    exact Option.isSome_iff_ne_none.mpr part
  | network blockchain whole other =>
    refine ⟨_, (if_neg (not_not.mpr blockchain)).trans ((if_neg ?_).trans (if_pos other)), rfl⟩
    simp [whole]

theorem checkNetwork_network (g : Gateway) : g.checkNetwork (some g.network) = .ok () := by
  simp [checkNetwork, network]

/-- What is meant for the gateway is answered as planned. -/
theorem answer_of_own {body : RequestBody} {talk : Talk Outcome} (carries : r.Carries e body)
    (own : body.network = some g.network) (planned : g.plan e body.members = .ok talk) :
    g.answer (.addressed e) r = talk := by
  rw [answer_of_carries carries planned, own, checkNetwork_network]

/-! ### Plans -/

theorem plan_accountBalance {q : AccountQuery}
    (read : AccountQuery.ofJson (.object members) = .ok q) :
    g.plan .accountBalance members = .ok (g.accountBalance q).outcome :=
  bind_eq_ok.mpr ⟨q, read, rfl⟩

theorem plan_block {q : BlockQuery} (read : BlockQuery.ofJson (.object members) = .ok q) :
    g.plan .block members = .ok (g.block q) :=
  bind_eq_ok.mpr ⟨q, read, rfl⟩

theorem plan_blockTransaction {q : TransactionQuery}
    (read : TransactionQuery.ofJson (.object members) = .ok q) :
    g.plan .blockTransaction members = .ok (g.blockTransaction q).outcome :=
  bind_eq_ok.mpr ⟨q, read, rfl⟩

/-- The node makes no difference to a stage that needs none. -/
theorem plan_without_node (g : Gateway) {stage : ConstructionStage}
    (alone : stage.needsNode = false) (fits : stage.Fits (.object members)) :
    ∃ o, ∀ online, ({ g with online } : Gateway).plan (.construction stage) members =
      .ok (.done o) := by
  obtain ⟨r, known⟩ := ConstructionStage.respond_known alone g.config.constructionContext fits
  refine ⟨{ result := r.mapError ConstructionError.api },
    fun online => bind_eq_ok.mpr ⟨_, known, ?_⟩⟩
  rw [alone]
  rfl

/-- What a request asks is refused before a node is needed for it. -/
theorem plan_of_objects (g : Gateway) {number : Int32} (h : e.Objects members number) :
    ∃ error, g.plan e members = .ok (.done { result := .error error }) ∧
      .ofNat error.code.number = number := by
  cases h with
  | @byHash q read index hash =>
    have refused : q.requireIndex = .error ⟨.mustQueryByIndex, none⟩ := by
      rw [BlockQuery.requireIndex, index, Option.isSome_iff_ne_none.mpr hash]
      rfl
    refine ⟨⟨.mustQueryByIndex, none⟩, ?_, rfl⟩
    rw [plan_block read, block, blockHeight, refused]
    rfl
  | @address q fault read whole bad =>
    have refused : q.resolve = .error fault.api := by
      rw [AccountQuery.resolve, whole, bad]
      rfl
    refine ⟨fault.api, ?_, rfl⟩
    rw [plan_accountBalance read, accountBalance, refused]
    rfl
  | @subAccount q read part =>
    have refused : q.resolve = .error ⟨.mustSpecifySubAccount, none⟩ :=
      if_pos (Option.isSome_iff_ne_none.mpr part)
    refine ⟨⟨.mustSpecifySubAccount, none⟩, ?_, rfl⟩
    rw [plan_accountBalance read, accountBalance, refused]
    rfl

/-- What nothing else is wrong with is refused for want of a node. -/
theorem plan_offline (needs : e.needsNode = true) (offline : g.online = false)
    (fits : e.Fits members) (unobjected : ∀ number, ¬ e.Objects members number) :
    ∃ details, g.plan e members =
      .ok (.done { result := .error ⟨.unableToReachNode, details⟩ }) := by
  have absent : g.requireNode = .error ⟨.unableToReachNode,
      some "gateway is running in offline mode"⟩ := by
    rw [requireNode, offline]
    rfl
  refine ⟨some "gateway is running in offline mode", ?_⟩
  cases e with
  | networkOptions => cases needs
  | networkStatus =>
    rw [plan, status, absent]
    rfl
  | mempool =>
    rw [plan, mempool, absent]
    rfl
  | blockTransaction =>
    obtain ⟨q, read⟩ := fits
    rw [plan_blockTransaction read, blockTransaction, absent]
    rfl
  | block =>
    obtain ⟨q, read⟩ := fits
    have indexed : q.requireIndex = .ok () := by
      refine if_neg fun byHash => ?_
      obtain ⟨index, hash⟩ := Bool.and_eq_true_iff.mp byHash
      exact unobjected 9
        (.byHash read (Option.isNone_iff_eq_none.mp index) (Option.isSome_iff_ne_none.mp hash))
    rw [plan_block read, block, blockHeight, indexed, absent]
    rfl
  | accountBalance =>
    obtain ⟨q, read⟩ := fits
    have whole : q.subAccount = none := by
      by_contra part
      exact unobjected 11 (.subAccount read part)
    cases named : Address.ofText q.address with
    | error fault => exact absurd (.address read whole named) (unobjected 10)
    | ok address =>
      have resolved : q.resolve = .ok address := by
        rw [AccountQuery.resolve, whole, named]
        rfl
      rw [plan_accountBalance read, accountBalance, resolved, absent]
      rfl
  | construction stage =>
    obtain ⟨act, read⟩ := (ConstructionStage.respond_succeeds g.config.constructionContext).mpr fits
    have needed : stage.needsNode = true := needs
    refine bind_eq_ok.mpr ⟨act, read, ?_⟩
    rw [needed, if_pos rfl, absent]
    rfl

/-- What a request can be refused for, in the order in which it is looked at, and what never
asks the node. -/
theorem guarded (g : Gateway) (sent : r.IsTo (.addressed e)) :
    ((∀ body, ¬ r.Carries e body) → g.Refuses r 19) ∧
    ∀ body, r.Carries e body →
      (∀ number, g.Objects body.network number → g.Refuses r number) ∧
      (body.network = some g.network →
        (∀ stage ∈ [ConstructionStage.derive, .preprocess, .payloads, .combine, .parse, .hash],
          e = .construction stage → ∃ response, ∀ online m node moment, ∃ counted,
            (({ g with online } : Gateway).serve r m).runFrom node moment =
              ((response, counted), [])) ∧
        (∀ number, e.Objects body.members number → g.Refuses r number) ∧
        (e ∈ [.networkStatus, .accountBalance, .block, .blockTransaction, .mempool,
            .construction .metadata, .construction .submit] →
          g.online = false → (∀ number, ¬ e.Objects body.members number) → g.Refuses r 31)) := by
  refine ⟨fun unfit => ?_, fun body carries => ⟨fun number other => ?_, fun own => ⟨?_, ?_, ?_⟩⟩⟩
  · obtain ⟨details, ends⟩ := answer_of_unfit g unfit
    exact refuses_of_answer sent ends rfl
  · obtain ⟨talk, planned⟩ := (plan_succeeds (g := g)).mpr carries.fits
    obtain ⟨error, refused, numbered⟩ := checkNetwork_of_objects other
    have ends := answer_of_carries carries planned
    rw [refused] at ends
    exact refuses_of_answer sent ends numbered
  · rintro stage listed rfl
    have alone :
        ∀ stage ∈ [ConstructionStage.derive, .preprocess, .payloads, .combine, .parse, .hash],
          stage.needsNode = false := by decide
    obtain ⟨o, planned⟩ := plan_without_node g (alone stage listed) carries.fits
    refine ⟨.ofResult r.method o.result, fun online m node moment =>
      ⟨m.record (.addressed (.construction stage)) o, ?_⟩⟩
    have ends := answer_of_own (g := { g with online }) carries own (planned online)
    rw [runFrom_serve _ sent, ends]
    rfl
  · intro number objected
    obtain ⟨error, planned, numbered⟩ := plan_of_objects g objected
    exact refuses_of_answer sent (answer_of_own carries own planned) numbered
  · intro listed offline unobjected
    have needs : ∀ e ∈ [AddressedEndpoint.networkStatus, .accountBalance, .block,
        .blockTransaction, .mempool, .construction .metadata, .construction .submit],
        e.needsNode = true := by decide
    obtain ⟨details, planned⟩ := plan_offline (needs e listed) offline carries.fits unobjected
    exact refuses_of_answer sent (answer_of_own carries own planned) rfl

end Gateway

/-! A block is asked for by its hash alone, of another network and of that of the gateway. -/

namespace Specimen

def blockByHash (network : String) : Request where
  method := "POST"
  path := "/block"
  contentType := some "application/json"
  body := "\x7b\"network_identifier\":\x7b\"blockchain\":\"IoTeX\",\"network\":\"" ++ network ++
    "\"\x7d,\"block_identifier\":\x7b\"hash\":\"ab\"\x7d\x7d"

theorem blockByHash_sent (network : String) : (blockByHash network).IsTo (.addressed .block) := by
  have route : ({ method := "POST", path := "/block" } : Request).route = "/block" := by decide
  exact ⟨route, rfl⟩

/-- What is decided about a body: the network it names, and the block it asks for. -/
def blockSought (body : RequestBody) :
    Option (String × String × Bool) × Option (Option UInt64 × Option String) :=
  (body.network.map fun n => (n.blockchain, n.network, n.subNetwork.isNone),
    (BlockQuery.ofJson (.object body.members)).toOption.map fun q => (q.index, q.hash))

theorem blockByHash_carries (network : String)
    (decided : (RequestBody.ofText (blockByHash network).contentType
        (blockByHash network).body).toOption.map blockSought =
      some (some ("IoTeX", network, true), some (none, some "ab"))) :
    ∃ body q, (blockByHash network).Carries .block body ∧
      body.network = some ⟨"IoTeX", network, none⟩ ∧
      BlockQuery.ofJson (.object body.members) = .ok q ∧ q.index = none ∧ q.hash = some "ab" := by
  obtain ⟨⟨named, members⟩, read, sought⟩ := Outcome.exists_ok_of_toOption decided
  obtain ⟨told, asked⟩ := Prod.mk.inj sought
  obtain ⟨⟨chain, name, part⟩, rfl, parts⟩ := Option.map_eq_some_iff.mp told
  obtain ⟨q, fits, sides⟩ := Outcome.exists_ok_of_toOption asked
  simp only [Prod.mk.injEq] at parts sides
  obtain ⟨rfl, rfl, whole⟩ := parts
  obtain rfl : part = none := Option.isNone_iff_eq_none.mp whole
  exact ⟨_, q, ⟨read, q, fits⟩, rfl, fits, sides⟩

/-- The network is refused before the hash is looked at, and the hash before a node is missed. -/
theorem blockByHash_refused :
    (∀ online, ({ online } : Gateway).Refuses (blockByHash "testnet") 4) ∧
      ({ online := false } : Gateway).Refuses (blockByHash "mainnet") 9 := by
  constructor
  · intro online
    obtain ⟨body, -, carries, named, -⟩ := blockByHash_carries "testnet" (by decide +kernel)
    obtain ⟨-, fitting⟩ := Gateway.guarded { online } (blockByHash_sent "testnet")
    obtain ⟨others, -⟩ := fitting body carries
    have other : "testnet" ≠ "mainnet" := by decide
    rw [named] at others
    exact others 4 (.network rfl rfl other)
  · obtain ⟨body, q, carries, named, read, index, hash⟩ :=
      blockByHash_carries "mainnet" (by decide +kernel)
    obtain ⟨-, fitting⟩ := Gateway.guarded { online := false } (blockByHash_sent "mainnet")
    obtain ⟨-, own⟩ := fitting body carries
    obtain ⟨-, refused, -⟩ := own named
    exact refused 9 (.byHash read index (by simp [hash]))

end Specimen

end LedgerGateway
