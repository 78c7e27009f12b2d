import BoxOffice.Http.App
import BoxOffice.Proofs.Http.Form
import BoxOffice.Proofs.Service.Run
import BoxOffice.Proofs.Ticket.Wire
import BoxOffice.Store.Memory

/-!
# Answers over HTTP

What is answered to a question about tickets is what the service comes to, in the words of HTTP.

1. The parameters of a question are read from its query string, in whichever order they stand there
   (`ofQuery_of_asksAt`). One that is missing counts as blank (`Blank`).
2. `ask` attempts one plan and concludes with its result: a plan that fails at once where a parameter
   is blank, and otherwise the plan for the request that the trimmed parameters make (`ask_eq`).
3. So the answer mirrors the performance of that plan, in its result and in all that it does
   (`Mirrors`, `answers_ask`).
4. The body of a failure holds the error code, and that of a success none; either goes with one
   status (`StatusOfCode`).
-/

namespace BoxOffice.Http

open BoxOffice.Json BoxOffice.Text BoxOffice.Http.App

variable {σ π α : Type}

/-! ## Parameters -/

/-- The parameter is missing, or holds nothing but blanks. -/
def Blank (parameter : Option String) : Prop :=
  ∀ text ∈ parameter, ∀ c ∈ text.toList, isBlank c = true

theorem trimChars_getD_eq_nil_iff {parameter : Option String} :
    trimChars (parameter.getD "").toList = [] ↔ Blank parameter := by
  rw [trimChars_eq_nil_iff]
  cases parameter <;> simp [Blank]

section Parameters

variable {kind : IdKind} {parameter : Option String}

theorem parseOption_of_blank (h : Blank parameter) :
    Id.parseOption kind parameter = .error (.validation (kind.name ++ " is required")) :=
  dif_pos (trimChars_getD_eq_nil_iff.2 h)

/-- A parameter that is not blank is read as the identifier that it is without the blanks around
it. -/
theorem exists_parseOption (h : ¬ Blank parameter) :
    ∃ a : Id kind, Id.parseOption kind parameter = .ok a ∧ a.text = trim (parameter.getD "") :=
  ⟨_, dif_neg (mt trimChars_getD_eq_nil_iff.1 h), rfl⟩

end Parameters

/-- The pairs that the given parameters make. -/
def pairsOf (countryCode eventId : Option String) : List (String × String) :=
  (countryCode.map fun text => ("countryCode", text)).toList ++
    (eventId.map fun text => ("eventId", text)).toList

/-- The request gets a path, and its query string is the form encoding of the given parameters, in
either order. -/
structure AsksAt (r : Request) (path : String) (countryCode eventId : Option String) : Prop where
  method : r.method = "GET"
  path : r.target.path = path
  query : ∃ pairs, (pairs = pairsOf countryCode eventId ∨ pairs = (pairsOf countryCode eventId).reverse) ∧
    r.target.query.getD "" = Form.encode pairs

variable {r : Request} {path : String} {countryCode eventId : Option String}

theorem ofQuery_of_asksAt (h : AsksAt r path countryCode eventId) :
    Params.ofQuery r.target.query = .ok ⟨countryCode, eventId⟩ := by
  obtain ⟨pairs, horder, hquery⟩ := h.query
  unfold Params.ofQuery
  rw [hquery, Form.decode_encode]
  cases countryCode <;> cases eventId <;> rcases horder with rfl | rfl <;> rfl

/-! ## Plans -/

/-- The plan that is attempted for the parameters: one that fails at once, or that for the request
which they make. -/
inductive PlanFor (countryCode eventId : Option String) (plan : AvailabilityRequest → Plan α) :
    Plan α → Prop
  | noCountry : Blank countryCode →
      PlanFor countryCode eventId plan (Plan.fail (.validation "countryCode is required"))
  | noEvent : ¬ Blank countryCode → Blank eventId →
      PlanFor countryCode eventId plan (Plan.fail (.validation "eventId is required"))
  | request {a : AvailabilityRequest} : ¬ Blank countryCode → ¬ Blank eventId →
      a.countryCode.text = trim (countryCode.getD "") → a.eventId.text = trim (eventId.getD "") →
      PlanFor countryCode eventId plan (plan a)

theorem ask_eq {query : Option String} (h : Params.ofQuery query = .ok ⟨countryCode, eventId⟩)
    (message : String) (toValue : α → Value) (plan : AvailabilityRequest → Plan α) :
    ∃ q, PlanFor countryCode eventId plan q ∧
      ask query message toValue plan = q.attempt >>= conclude message toValue := by
  unfold ask Params.toRequest AvailabilityRequest.parse
  rw [h]
  dsimp only
  by_cases hc : Blank countryCode
  · rw [parseOption_of_blank hc]
    exact ⟨_, .noCountry hc, rfl⟩
  · obtain ⟨c, hcode, hc'⟩ : ∃ c : CountryCode, _ := exists_parseOption hc
    rw [hcode]
    by_cases he : Blank eventId
    · rw [parseOption_of_blank he]
      exact ⟨_, .noEvent hc he, rfl⟩
    · obtain ⟨e, hevent, he'⟩ : ∃ e : EventId, _ := exists_parseOption he
      rw [hevent]
      exact ⟨_, .request hc he hc' he', rfl⟩

/-- What is answered at an endpoint for tickets is given the identifier of the request. -/
theorem handle_of_endpoint (app : App) (fresh : Uuid) {endpoint : Endpoint}
    (hpath : Endpoint.ofPath? r.target.path = some endpoint) (hask : endpoint ≠ .health) :
    app.handle fresh r = app.route (requestId fresh r) r endpoint >>= fun a =>
      pure (withRequestId (requestId fresh r) a) := by
  unfold handle
  rw [hpath]
  cases endpoint with
  | health => exact absurd rfl hask
  | listing => rfl
  | online => rfl

/-- A question at an endpoint is served by it. -/
theorem handle_eq (app : App) (fresh : Uuid) {endpoint : Endpoint} (hget : r.method = "GET")
    (hpath : Endpoint.ofPath? r.target.path = some endpoint) (hask : endpoint ≠ .health) :
    app.handle fresh r = app.serve (requestId fresh r) r.target.query endpoint >>= fun a =>
      pure (withRequestId (requestId fresh r) a) := by
  rw [handle_of_endpoint app fresh hpath hask, route, if_pos hget]

/-! ## Runs -/

/-- What is answered to a question that came to a result. -/
def answerTo (message : String) (toValue : α → Value) : Except TicketError α → Response
  | .ok a => .json 200 (.object [("data", toValue a), ("message", .string message)])
  | .error e =>
    .json (Response.statusOf e) (.object [("error", .string e.code), ("message", .string e.message)])

section Run

variable (s : TicketStore σ) (deadline : Option Nat) (time : Nat) (state : σ) (message : String)
  (toValue : α → Value)

/-- Concluding logs at most, and ends in the answer. -/
theorem run_conclude (result : Except TicketError α) :
    ∃ events, (conclude message toValue result).run s deadline time state =
      ⟨.ok (answerTo message toValue result), state, [], [], events, time⟩ := by
  cases result with
  | ok a => exact ⟨[], rfl⟩
  | error e =>
    unfold conclude
    dsimp only
    split <;> exact ⟨_, rfl⟩

/-- A plan that is attempted and concluded ends in the answer to its result. -/
theorem run_answer (id : Uuid) (q : Plan α) :
    ∃ events, ((q.attempt >>= conclude message toValue) >>= fun a => pure (withRequestId id a)).run
        s deadline time state =
      { q.run s deadline time state with
        result := .ok (withRequestId id (answerTo message toValue (q.run s deadline time state).result))
        events := events } := by
  obtain ⟨events, hconclude⟩ := run_conclude s deadline (q.run s deadline time state).time
    (q.run s deadline time state).store message toValue (q.run s deadline time state).result
  rw [Plan.run_bind_pure, Plan.run_bind, Plan.run_attempt]
  simp only [Run.andThen, hconclude, List.append_nil, Except.map]
  exact ⟨_, rfl⟩

end Run

/-! ## Performances -/

/-- An answer is made of the result of a performance, and what was done for it is what the
performance did. -/
structure Mirrors (answer : Except TicketError α → Response) (p : Performance σ π Response)
    (q : Performance σ π α) : Prop where
  result : p.result = .ok (answer q.result)
  store : p.store = q.store
  publisher : p.publisher = q.publisher
  calls : p.calls = q.calls
  published : p.published = q.published
  time : p.time = q.time

/-- A question is refused for want of a parameter, and nothing is done for it. -/
structure Refuses (id : Uuid) (parameter : String) (state : σ × π) (p : Performance σ π Response) :
    Prop where
  result : p.result = .ok (withRequestId id (.json 400 (.object [
    ("error", .string "validation_error"), ("message", .string (parameter ++ " is required"))])))
  store : p.store = state.1
  publisher : p.publisher = state.2
  calls : p.calls = []
  published : p.published = []
  time : p.time = 0

/-- What the answer to a question is: a refusal where a parameter is blank, and otherwise the mirror
of what the service does with the trimmed parameters, under the application's timeout. -/
structure Answers (app : App) (store : TicketStore σ) (publisher : Publisher π) (state : σ × π)
    (id : Uuid) (countryCode eventId : Option String) (message : String) (toValue : α → Value)
    (plan : AvailabilityRequest → Plan α) (p : Performance σ π Response) : Prop where
  noCountry : Blank countryCode → Refuses id "countryCode" state p
  noEvent : ¬ Blank countryCode → Blank eventId → Refuses id "eventId" state p
  request : ¬ Blank countryCode → ¬ Blank eventId → ∃ a : AvailabilityRequest,
    a.countryCode.text = trim (countryCode.getD "") ∧ a.eventId.text = trim (eventId.getD "") ∧
      Mirrors (fun result => withRequestId id (answerTo message toValue result)) p
        (app.service.perform store publisher (some app.timeout) state (plan a))

section Perform

variable (app : App) (store : TicketStore σ) (publisher : Publisher π) (state : σ × π)

theorem mirrors_answer (id : Uuid) (message : String) (toValue : α → Value) (q : Plan α) :
    Mirrors (fun result => withRequestId id (answerTo message toValue result))
      (app.service.perform store publisher (some app.timeout) state
        ((q.attempt >>= conclude message toValue) >>= fun a => pure (withRequestId id a)))
      (app.service.perform store publisher (some app.timeout) state q) := by
  obtain ⟨events, hrun⟩ := run_answer store (some app.timeout) 0 state.1 message toValue id q
  constructor <;> simp only [TicketService.perform, hrun]

/-- A plan that fails at once for want of a parameter does nothing, so its mirror is a refusal. -/
theorem refuses_of_mirrors {id : Uuid} {message parameter : String} {toValue : α → Value}
    {p : Performance σ π Response}
    (h : Mirrors (fun result => withRequestId id (answerTo message toValue result)) p
      (app.service.perform store publisher (some app.timeout) state
        (Plan.fail (.validation (parameter ++ " is required"))))) : Refuses id parameter state p where
  result := h.result
  store := h.store
  publisher := h.publisher
  calls := h.calls
  published := h.published
  time := h.time

theorem answers_ask (id : Uuid) {query : Option String}
    (h : Params.ofQuery query = .ok ⟨countryCode, eventId⟩) (message : String) (toValue : α → Value)
    (plan : AvailabilityRequest → Plan α) :
    Answers app store publisher state id countryCode eventId message toValue plan
      (app.service.perform store publisher (some app.timeout) state
        (ask query message toValue plan >>= fun a => pure (withRequestId id a))) := by
  obtain ⟨q, hplan, hask⟩ := ask_eq h message toValue plan
  rw [hask]
  have hmirrors := mirrors_answer app store publisher state id message toValue q
  cases hplan with
  | noCountry hc => exact {
      noCountry := fun _ => refuses_of_mirrors app store publisher state hmirrors
      noEvent := fun hc' => absurd hc hc'
      request := fun hc' => absurd hc hc' }
  | noEvent hc he => exact {
      noCountry := fun hc' => absurd hc' hc
      noEvent := fun _ _ => refuses_of_mirrors app store publisher state hmirrors
      request := fun _ he' => absurd he he' }
  | request hc he hcode hevent => exact {
      noCountry := fun hc' => absurd hc' hc
      noEvent := fun _ he' => absurd he' he
      request := fun _ _ => ⟨_, hcode, hevent, hmirrors⟩ }

end Perform

/-! ## Statuses and codes -/

/-- The error code in the body of an answer. -/
def errorCode? (a : Response) : Option String :=
  match Value.ofText a.body with
  | .ok v => v.stringAt? "error"
  | .error _ => none

/-- The status and the error code of an answer are those of an error, or those of success. -/
def StatusOfCode (a : Response) : Prop :=
  (∃ e : TicketError, a.status = Response.statusOf e ∧ errorCode? a = some e.code) ∨
    a.status = 200 ∧ errorCode? a = none

theorem statusOf_eq_iff (e e' : TicketError) :
    Response.statusOf e = Response.statusOf e' ↔ e.code = e'.code := by
  cases e <;> cases e' <;> simp [Response.statusOf, TicketError.code]

theorem statusOf_ne_success (e : TicketError) : Response.statusOf e ≠ 200 := by
  cases e <;> simp [Response.statusOf]

/-- Of answers with a status and code of their own, the one decides the other. -/
theorem StatusOfCode.status_eq_iff {a a' : Response} (h : StatusOfCode a) (h' : StatusOfCode a') :
    a.status = a'.status ↔ errorCode? a = errorCode? a' := by
  rcases h with ⟨e, hstatus, hcode⟩ | ⟨hstatus, hcode⟩ <;>
    rcases h' with ⟨e', hstatus', hcode'⟩ | ⟨hstatus', hcode'⟩ <;>
    rw [hstatus, hstatus', hcode, hcode']
  · rw [statusOf_eq_iff, Option.some.injEq]
  · simp [statusOf_ne_success]
  · simp [(statusOf_ne_success e').symm]
  · simp

/-! ## Bodies -/

/-- The value has no real numbers and few brackets, so that a body with it is read back. -/
structure Readable (v : Value) : Prop where
  whole : v.isWhole = true
  shallow : v.depth ≤ 3

theorem readable_string (text : String) : Readable (.string text) := ⟨rfl, Nat.zero_le 3⟩

theorem readable_ticketView (v : TicketView) : Readable v.toValue where
  whole := rfl
  shallow := by
    rw [v.depth_toValue]
    decide

theorem readable_ticketListing (l : TicketListing) : Readable l.toValue := ⟨l.isWhole_toValue, l.depth_toValue_le⟩

/-- A body of a value and a message is read back, with its members in their order. -/
theorem ofText_body (name : String) {v : Value} (hv : Readable v) (hne : "message" ≠ name)
    (hname : ¬ "message" < name) (message : String) :
    Value.ofText (Value.object [(name, v), ("message", .string message)]).text =
      .ok (.object [(name, v.ordered), ("message", .string message)]) := by
  have hwhole : (Value.object [(name, v), ("message", .string message)]).isWhole = true := by
    simp [Value.isWhole, wholeMembers, hv.whole]
  have hdepth : (Value.object [(name, v), ("message", .string message)]).depth ≤ greatestDepth := by
    have := hv.shallow
    simp only [Value.depth, depthOfMembers, greatestDepth]
    omega
  rw [Value.ofText_text hwhole hdepth]
  simp [Value.ordered, orderedMembers, orderMembers, insertMember, hne, hname]

theorem errorCode?_of_body {a : Response} {v w : Value} (hbody : a.body = v.text)
    (hread : Value.ofText v.text = .ok w) : errorCode? a = w.stringAt? "error" := by
  unfold errorCode?
  rw [hbody, hread]

/-- The status and the code of an answer to a question go together. -/
theorem statusOfCode_answerTo {toValue : α → Value} (hvalue : ∀ a, Readable (toValue a)) (id : Uuid)
    (message : String) (result : Except TicketError α) :
    StatusOfCode (withRequestId id (answerTo message toValue result)) := by
  cases result with
  | ok a =>
    have hread := ofText_body "data" (hvalue a) (by decide) (by decide) message
    refine .inr ⟨rfl, ?_⟩
    rw [errorCode?_of_body rfl hread]
    rfl
  | error e =>
    have hread := ofText_body "error" (readable_string e.code) (by decide) (by decide) e.message
    refine .inl ⟨e, rfl, ?_⟩
    rw [errorCode?_of_body rfl hread]
    rfl

/-- Whatever is answered to a question, its status and its code go together. -/
theorem Answers.statusOfCode {app : App} {store : TicketStore σ} {publisher : Publisher π}
    {state : σ × π} {id : Uuid} {message : String} {toValue : α → Value}
    {plan : AvailabilityRequest → Plan α} {p : Performance σ π Response} {a : Response}
    (h : Answers app store publisher state id countryCode eventId message toValue plan p)
    (hvalue : ∀ a, Readable (toValue a)) (ha : p.result = .ok a) : StatusOfCode a := by
  by_cases hc : Blank countryCode
  · cases (h.noCountry hc).result.symm.trans ha
    exact statusOfCode_answerTo hvalue id message (.error (.validation "countryCode is required"))
  · by_cases he : Blank eventId
    · cases (h.noEvent hc he).result.symm.trans ha
      exact statusOfCode_answerTo hvalue id message (.error (.validation "eventId is required"))
    · obtain ⟨_, -, -, hmirrors⟩ := h.request hc he
      cases hmirrors.result.symm.trans ha
      exact statusOfCode_answerTo hvalue id message _

/-! ## Questions -/

section Respond

variable (app : App) (store : TicketStore σ) (publisher : Publisher π) (state : σ × π) (fresh : Uuid)

/-- A question about the tickets of a country is answered as the listing goes. -/
theorem answers_listing (h : AsksAt r "/api/tickets/v1/list" countryCode eventId) :
    Answers app store publisher state (requestId fresh r) countryCode eventId "Get ticket success"
      TicketListing.toValue (app.service.resolve (requestId fresh r))
      (app.respond store publisher state fresh r) := by
  have hpath : Endpoint.ofPath? r.target.path = some .listing := by
    rw [h.path]
    decide
  unfold respond
  rw [handle_eq app fresh h.method hpath nofun]
  exact answers_ask app store publisher state _ (ofQuery_of_asksAt h) _ _ _

/-- A question about the online ticket of a country is answered as the sale goes. -/
theorem answers_online (h : AsksAt r "/api/tickets/v1/online" countryCode eventId) :
    Answers app store publisher state (requestId fresh r) countryCode eventId
      "Get online ticket success" TicketView.toValue (app.service.decideOnline (requestId fresh r))
      (app.respond store publisher state fresh r) := by
  have hpath : Endpoint.ofPath? r.target.path = some .online := by
    rw [h.path]
    decide
  unfold respond
  rw [handle_eq app fresh h.method hpath nofun]
  exact answers_ask app store publisher state _ (ofQuery_of_asksAt h) _ _ _

end Respond

/-- The response is answered to some question about tickets, by some application over some store. -/
inductive Answered : Response → Prop
  | intro {σ π : Type} {app : App} {store : TicketStore σ} {publisher : Publisher π} {state : σ × π}
      {fresh : Uuid} {r : Request} {path : String} {countryCode eventId : Option String}
      {a : Response} : path = "/api/tickets/v1/list" ∨ path = "/api/tickets/v1/online" →
      AsksAt r path countryCode eventId → (app.respond store publisher state fresh r).result = .ok a →
      Answered a

theorem Answered.statusOfCode {a : Response} (h : Answered a) : StatusOfCode a := by
  obtain ⟨rfl | rfl, hasks, ha⟩ := h
  · exact (answers_listing _ _ _ _ _ hasks).statusOfCode readable_ticketListing ha
  · exact (answers_online _ _ _ _ _ hasks).statusOfCode readable_ticketView ha

end BoxOffice.Http
