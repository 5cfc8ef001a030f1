import LedgerGateway.Proofs.Node
import LedgerGateway.Proofs.Outcome
import LedgerGateway.Service

/-!
# Responses and the errors they tell

A request that is sent to an endpoint with its own method gets the response that the endpoint's
outcome is written as, and is counted with that outcome (`runFrom_serve`). An error is written as
its entry of the catalog with what is wrong with this request (`Response.Tells`), so a client reads
the code off the response (`code?_ofResult`).
-/

namespace LedgerGateway

/-- The request is sent to the endpoint, with a method that it answers. -/
structure Request.IsTo (r : Request) (e : Endpoint) : Prop where
  route : r.route = e.path
  allowed : e.allows r.method = true

/-- The response is the entry of the catalog with this number, with details. -/
def Response.Tells (r : Response) (number : Int32) : Prop :=
  r.status = 500 ∧ ∃ entry ∈ catalog, entry.code = number ∧
    ∃ details, r.body = .json { entry with details }.toJson

/-- The code that a client reads off a response. -/
def Response.code? (r : Response) : Option ErrorCode :=
  match r.status, r.body with
  | 500, .json (.object members) =>
    match Json.last? "code" members with
    | some (.integer n) => ErrorCode.ofNumber? n.toNat
    | _ => none
  | _, _ => none

theorem ErrorCode.mem_all (c : ErrorCode) : c ∈ all := by cases c <;> decide

theorem ErrorCode.body_mem_catalog (c : ErrorCode) : c.body ∈ catalog :=
  List.mem_map_of_mem c.mem_all

namespace Response

variable {method : String}

theorem tells_ofResult (e : ApiError) : (ofResult method (.error e)).Tells (.ofNat e.code.number) :=
  ⟨rfl, e.code.body, e.code.body_mem_catalog, rfl, _, rfl⟩

theorem code?_error (e : ApiError) : (ofResult method (.error e)).code? = some e.code := by
  obtain ⟨code, details⟩ := e
  cases details <;> cases code <;> rfl

theorem code?_ok (answer : Json) : (ofResult method (.ok answer)).code? = none := rfl

end Response

namespace Gateway

variable {r : Request} {e : Endpoint}

theorem method_of_allows {method : String} (h : e.allows method = true) : method ≠ "OPTIONS" := by
  rintro rfl
  cases e <;> simp [Endpoint.allows] at h

/-- What is accepted is answered as its members are planned to be. -/
theorem plan_of_accept {g : Gateway} {e : AddressedEndpoint} {talk : Talk Outcome}
    (accepted : g.accept e r = .ok talk) : ∃ members, g.plan e members = .ok talk := by
  obtain ⟨body, -, rest⟩ := Outcome.bind_eq_ok.mp accepted
  obtain ⟨talk', planned, rest⟩ := Outcome.bind_eq_ok.mp rest
  obtain ⟨⟨⟩, -, same⟩ := Outcome.bind_eq_ok.mp rest
  obtain rfl := Outcome.pure_eq_ok.mp same
  exact ⟨body.members, Outcome.mapError_eq_ok.mp planned⟩

theorem serve_eq (g : Gateway) (sent : r.IsTo e) (m : Metrics) :
    g.serve r m = (g.answer e r).andThen fun o =>
      .done (.ofResult r.method o.result, m.record e o) := by
  have asked : (r.method == "OPTIONS") = false :=
    beq_eq_false_iff_ne.mpr (method_of_allows sent.allowed)
  simp only [serve, asked, sent.route, Endpoint.ofPath?_path, sent.allowed, if_true, if_false,
    Bool.false_eq_true]
  rfl

/-- Serving asks what answering asks; the outcome is written and counted. -/
theorem runFrom_serve (g : Gateway) (sent : r.IsTo e) (m : Metrics) (node : Nat → Responder)
    (moment : Nat) :
    (g.serve r m).runFrom node moment =
      ((.ofResult r.method ((g.answer e r).runFrom node moment).1.result,
        m.record e ((g.answer e r).runFrom node moment).1),
          ((g.answer e r).runFrom node moment).2) := by
  rw [serve_eq g sent, Talk.runFrom_andThen, Talk.runFrom, List.append_nil]

end Gateway

end LedgerGateway
