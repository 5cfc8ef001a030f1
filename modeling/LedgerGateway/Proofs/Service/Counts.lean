import LedgerGateway.Proofs.Service.Response
import Mathlib.Algebra.BigOperators.Group.List.Basic
import Mathlib.Algebra.GroupWithZero.Nat
import Mathlib.Data.List.Nodup

/-!
# The counts tell what was served

Requests are served one after the other (`exchanges`), each with the counts that the ones before it
have left. An exchange adds to the counts what can be seen of it from outside: where the request was
sent, the code in the response, and whether the node was asked for the block (`serve_adds`). So the
counts after a run are those of its exchanges. Main statement: `counts_exact`.
-/

namespace LedgerGateway

/-- Whether a block is asked for. -/
def Query.isForBlock : Query → Bool
  | .rawBlock _ => true
  | _ => false

/-- A request that has been served: the response to it, and what the node was asked for it. -/
structure Exchange where
  request : Request
  response : Response
  asked : List Query

namespace Exchange

/-- Whether the request was sent to the endpoint. -/
def isTo (x : Exchange) (e : Endpoint) : Bool := x.request.route == e.path

/-- Whether the response carries the code. -/
def tells (c : ErrorCode) (x : Exchange) : Bool := x.response.code? == some c

/-- Whether a block was fetched, or at least asked for, to be shown itself. -/
def fetches (x : Exchange) : Bool := x.isTo (.addressed .block) && x.asked.any Query.isForBlock

/-- No response carries two codes. -/
theorem countP_tells_le (x : Exchange) {codes : List ErrorCode} (distinct : codes.Nodup) :
    codes.countP (fun c => x.tells c) ≤ 1 := by
  unfold tells
  cases x.response.code? with
  | none => simp
  | some c =>
    have only : (fun c' => some c == some c') = (· == c) := by
      funext c'
      rw [Option.some_beq_some, Bool.beq_comm]
    rw [only]
    exact List.nodup_iff_count_le_one.mp distinct c

/-- The responses of an endpoint that carry one of the codes are not more than its requests. -/
theorem sum_tells_le (e : Endpoint) {codes : List ErrorCode} (distinct : codes.Nodup)
    (xs : List Exchange) :
    (codes.map fun c => xs.countP fun x => x.isTo e && x.tells c).sum ≤ xs.countP (·.isTo e) := by
  induction xs with
  | nil => simp
  | cons x xs ih =>
    have here : (codes.map fun c => if x.isTo e && x.tells c then 1 else 0).sum =
        codes.countP fun c => x.isTo e && x.tells c := by
      simp [List.sum_map_ite, List.countP_eq_length_filter]
    simp only [List.countP_cons, List.sum_map_add, here]
    refine Nat.add_le_add ih ?_
    cases x.isTo e with
    | false => simp
    | true => simpa using x.countP_tells_le distinct

end Exchange

theorem Endpoint.path_injective : Function.Injective path := fun e e' same =>
  Option.some.inj ((ofPath?_path e).symm.trans ((congrArg ofPath? same).trans (ofPath?_path e')))

/-- What is sent to an endpoint is sent to no other one. -/
theorem Request.IsTo.route_beq {r : Request} {e : Endpoint} (sent : r.IsTo e) (e' : Endpoint) :
    (r.route == e'.path) = decide (e = e') := by
  rw [sent.route, Bool.beq_eq_decide_eq, decide_eq_decide, Endpoint.path_injective.eq_iff]

namespace Metrics

/-- The counts after some exchanges are those before them, and one more for whatever is seen
of an exchange. -/
structure Adds (before : Metrics) (xs : List Exchange) (after : Metrics) : Prop where
  requests (e : Endpoint) : after.requests.count e = before.requests.count e + xs.countP (·.isTo e)
  errors (e : Endpoint) (c : ErrorCode) :
    after.errors.count (e, c) =
      before.errors.count (e, c) + xs.countP fun x => x.isTo e && x.tells c
  blockFetches : after.blockFetches = before.blockFetches + xs.countP Exchange.fetches

namespace Adds

variable {m after later : Metrics} {x : Exchange} {xs : List Exchange}

theorem nil : m.Adds [] m := ⟨fun _ => rfl, fun _ _ => rfl, rfl⟩

theorem cons (first : m.Adds [x] after) (rest : after.Adds xs later) : m.Adds (x :: xs) later where
  requests e := by
    rw [rest.requests, first.requests, Nat.add_assoc, ← List.countP_append, List.singleton_append]
  errors e c := by
    rw [rest.errors, first.errors, Nat.add_assoc, ← List.countP_append, List.singleton_append]
  blockFetches := by
    rw [rest.blockFetches, first.blockFetches, Nat.add_assoc, ← List.countP_append,
      List.singleton_append]

end Adds

/-! ### What an outcome adds -/

variable {m : Metrics} {e : Endpoint} {o : Outcome}

theorem requests_record : (m.record e o).requests = m.requests.add e := by
  unfold record
  cases o.fetchedBlock <;> cases o.result <;> rfl

theorem errors_record : (m.record e o).errors = match o.result with
    | .ok _ => m.errors
    | .error error => m.errors.add (e, error.code) := by
  unfold record
  cases o.fetchedBlock <;> cases o.result <;> rfl

theorem blockFetches_record :
    (m.record e o).blockFetches = m.blockFetches + o.fetchedBlock.toNat := by
  unfold record
  cases o.fetchedBlock <;> cases o.result <;> rfl

/-- An outcome is counted as it is told. -/
theorem adds_record {r : Request} {asked : List Query} (sent : r.IsTo e)
    (fetched : o.fetchedBlock = (decide (e = .addressed .block) && asked.any Query.isForBlock)) :
    m.Adds [⟨r, .ofResult r.method o.result, asked⟩] (m.record e o) where
  requests e' := by
    simp only [requests_record, Tally.count_add, List.countP_singleton, Exchange.isTo,
      sent.route_beq, decide_eq_true_eq]
  errors e' c := by
    simp only [errors_record, List.countP_singleton, Exchange.isTo, Exchange.tells, sent.route_beq]
    cases o.result with
    | ok answer => simp [Response.code?_ok]
    | error error => simp [Response.code?_error, Tally.count_add]
  blockFetches := by
    simp only [blockFetches_record, List.countP_singleton, Exchange.fetches, Exchange.isTo,
      sent.route_beq, fetched]
    cases _ && _ <;> rfl

end Metrics

namespace Gateway

variable {r : Request} {e : Endpoint}

/-! ### Where blocks are fetched -/

/-- The height of a block is found without asking for a block. -/
theorem blockHeight_asks (g : Gateway) (q : BlockQuery) (node : Nat → Responder) (moment : Nat) :
    (Talk.runFrom node moment (g.blockHeight q)).2.any Query.isForBlock = false := by
  unfold blockHeight BlockQuery.height
  cases q.requireIndex with
  | error e => rfl
  | ok =>
    cases g.requireNode with
    | error e => rfl
    | ok => cases q.index <;> rfl

/-- A block counts as fetched if and only if the node is asked for it, whatever comes of that. -/
theorem block_fetched (g : Gateway) (q : BlockQuery) (node : Nat → Responder) (moment : Nat) :
    ((g.block q).runFrom node moment).1.fetchedBlock =
      ((g.block q).runFrom node moment).2.any Query.isForBlock := by
  have quiet := g.blockHeight_asks q node moment
  rw [show g.block q = Talk.andThen (g.blockHeight q) _ from rfl, Talk.runFrom_andThen,
    List.any_append, quiet, Bool.false_or]
  cases (Talk.runFrom node moment (g.blockHeight q)).1 with
  | error error => rfl
  | ok height =>
    -- The first thing that fetching asks for is the block, and whatever comes of that is counted.
    refine (Talk.Ends.of_runFrom (P := fun o : Outcome => o.fetchedBlock = true) ?_ node _).trans
      rfl
    apply Talk.Ends.andThen (Talk.Ends.of_forall (fun _ => trivial) _)
    rintro (error | b) - <;> rfl

theorem outcome_not_fetched (serving : Serving) :
    serving.outcome.Ends fun o => o.fetchedBlock = false :=
  Talk.Ends.andThen (Talk.Ends.of_forall (fun _ => trivial) _) fun _ _ => rfl

/-- The endpoints other than the one for blocks do not count as fetching one, though they may
ask for blocks. -/
theorem plan_not_fetched {g : Gateway} {e : AddressedEndpoint} {members : List (String × Json)}
    {talk : Talk Outcome} (other : e ≠ .block) (planned : g.plan e members = .ok talk) :
    talk.Ends fun o => o.fetchedBlock = false := by
  cases e with
  | block => exact absurd rfl other
  | networkOptions | networkStatus | mempool =>
    obtain rfl := Outcome.pure_eq_ok.mp planned
    exact outcome_not_fetched _
  | accountBalance | blockTransaction | construction stage =>
    obtain ⟨_, -, made⟩ := Outcome.bind_eq_ok.mp planned
    obtain rfl := Outcome.pure_eq_ok.mp made
    exact outcome_not_fetched _

theorem answer_fetched (g : Gateway) (e : Endpoint) (r : Request) (node : Nat → Responder)
    (moment : Nat) :
    ((g.answer e r).runFrom node moment).1.fetchedBlock =
      (decide (e = .addressed .block) &&
        ((g.answer e r).runFrom node moment).2.any Query.isForBlock) := by
  cases e with
  | health | networkList | mempoolTransaction => rfl
  | addressed e =>
    cases accepted : g.accept e r with
    | error error =>
      simp only [answer, accepted, Talk.runFrom, pure, List.any_nil, Bool.and_false]
    | ok talk =>
      obtain ⟨members, planned⟩ := plan_of_accept accepted
      simp only [answer, accepted]
      by_cases block : e = .block
      · subst block
        obtain ⟨q, -, made⟩ := Outcome.bind_eq_ok.mp planned
        obtain rfl := Outcome.pure_eq_ok.mp made
        simpa using g.block_fetched q node moment
      · simpa [block] using (plan_not_fetched block planned).of_runFrom node moment

/-! ### Runs -/

/-- Serves requests one after the other. The node may change between queries, also from one
request to the next. -/
def exchanges (g : Gateway) (node : Nat → Responder) :
    (moment : Nat) → Metrics → List Request → List Exchange × Metrics
  | _, m, [] => ([], m)
  | moment, m, r :: rs =>
    let ((response, m), asked) := (g.serve r m).runFrom node moment
    let (later, m) := g.exchanges node (moment + asked.length) m rs
    (⟨r, response, asked⟩ :: later, m)

/-- One request adds what can be seen of its exchange. -/
theorem serve_adds (g : Gateway) (sent : r.IsTo e) (m : Metrics) (node : Nat → Responder)
    (moment : Nat) :
    let served := (g.serve r m).runFrom node moment
    m.Adds [⟨r, served.1.1, served.2⟩] served.1.2 := by
  rw [runFrom_serve g sent]
  exact Metrics.adds_record sent (g.answer_fetched e r node moment)

theorem exchanges_requests (g : Gateway) (node : Nat → Responder) (moment : Nat) (m : Metrics)
    (rs : List Request) : (g.exchanges node moment m rs).1.map Exchange.request = rs := by
  induction rs generalizing moment m with
  | nil => rfl
  | cons r rs ih => rw [exchanges, List.map_cons, ih]

/-- A run adds what can be seen of its exchanges. -/
theorem exchanges_adds (g : Gateway) (node : Nat → Responder) {rs : List Request}
    (sent : ∀ r ∈ rs, ∃ e, r.IsTo e) (moment : Nat) (m : Metrics) :
    m.Adds (g.exchanges node moment m rs).1 (g.exchanges node moment m rs).2 := by
  induction rs generalizing moment m with
  | nil => exact .nil
  | cons r rs ih =>
    obtain ⟨⟨e, here⟩, later⟩ := List.forall_mem_cons.mp sent
    exact .cons (g.serve_adds here m node moment) (ih later _ _)

/-- After any run from fresh counts, every endpoint has been counted once for each of its requests
and each of its responses that carry a code, and the fetching of a block once for each time that the
endpoint for blocks asked for one, whether it was answered or not. -/
theorem counts_exact (g : Gateway) (node : Nat → Responder) (moment : Nat) {rs : List Request}
    (sent : ∀ r ∈ rs, ∃ e, r.IsTo e) {xs : List Exchange} {m : Metrics}
    (run : g.exchanges node moment {} rs = (xs, m)) :
    xs.map Exchange.request = rs ∧
    (∀ e, m.requests.count e = rs.countP fun r => r.route == e.path) ∧
    (∀ e c, m.errors.count (e, c) = xs.countP fun x =>
      x.request.route == e.path && x.response.code? == some c) ∧
    (∀ e, (ErrorCode.all.map fun c => m.errors.count (e, c)).sum ≤ m.requests.count e) ∧
    m.blockFetches = xs.countP fun x =>
      x.request.route == "/block" && x.asked.any Query.isForBlock := by
  have served := g.exchanges_requests node moment {} rs
  have added := g.exchanges_adds node sent moment {}
  rw [run] at served added
  have errors (e : Endpoint) (c : ErrorCode) : m.errors.count (e, c) =
      xs.countP fun x => x.isTo e && x.tells c :=
    (added.errors e c).trans (Nat.zero_add _)
  have requests (e : Endpoint) : m.requests.count e = xs.countP (·.isTo e) :=
    (added.requests e).trans (Nat.zero_add _)
  refine ⟨served, fun e => ?_, errors, fun e => ?_, added.blockFetches.trans (Nat.zero_add _)⟩
  · rw [requests, ← served, List.countP_map]
    rfl
  · have distinct : ErrorCode.all.Nodup := by decide
    simp only [errors, requests]
    exact Exchange.sum_tells_le e distinct xs

end Gateway

/-! Health, a block that the node does not have, and a block of no network. -/

namespace Specimen

def visits : List Request :=
  [{ method := "GET", path := "/health" },
   { method := "POST", path := "/block", contentType := some "application/json",
     body :=
       "\x7b\"network_identifier\":\x7b\"blockchain\":\"IoTeX\",\"network\":\"mainnet\"\x7d," ++
       "\"block_identifier\":\x7b\"index\":9\x7d\x7d" },
   { method := "POST", path := "/block", contentType := some "application/json",
     body := "\x7b\x7d" }]

theorem visits_counted :
    ∃ xs m, ({} : Gateway).exchanges (fun _ _ => .error (.notFound "")) 0 {} visits = (xs, m) ∧
      m.requests.count .health = 1 ∧ m.requests.count (.addressed .block) = 2 ∧
      m.errors.count (.addressed .block, .unableToGetBlock) = 1 ∧
      m.errors.count (.addressed .block, .missingNetworkIdentifier) = 1 ∧ m.blockFetches = 1 := by
  have sent : ∀ r ∈ visits, ∃ e : Endpoint, r.IsTo e := by
    simp only [visits, List.forall_mem_cons]
    refine ⟨⟨.health, by decide, by decide⟩, ⟨.addressed .block, by decide, by decide⟩,
      ⟨.addressed .block, by decide, by decide⟩, List.forall_mem_nil _⟩
  obtain ⟨-, requests, errors, -, fetches⟩ :=
    Gateway.counts_exact {} (fun _ _ => .error (.notFound "")) 0 sent (Prod.eta _).symm
  refine ⟨_, _, (Prod.eta _).symm, ?_⟩
  rw [requests, requests, errors, errors, fetches]
  decide +kernel

end Specimen

end LedgerGateway
