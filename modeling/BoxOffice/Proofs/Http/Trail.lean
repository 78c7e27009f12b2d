import BoxOffice.Proofs.Http.Answer
import BoxOffice.Proofs.Service.Verdict

/-!
# The trail of a request

What is logged of an HTTP request is what is logged of the step that is taken for it, and one event more where the
answer blames the server.

1. An answer that blames the server has the status 500 or 502, and only such an answer is logged (`Closing`).
2. A request is answered with a step, or with none (`StepFor`), and its trail is that of the step, closed before the
   messages are sent (`Concludes`).
-/

namespace BoxOffice.Http

open BoxOffice.Json BoxOffice.Http.App

variable {σ π α β : Type}

/-! ## Closing -/

/-- What is logged where a request is answered with a status: one event if the server is to blame, and else none. -/
inductive Closing : Nat → List LogEvent → Prop
  | silent {status : Nat} : status ≠ 500 → status ≠ 502 → Closing status []
  | failed {status : Nat} (text : String) : status = 500 ∨ status = 502 →
      Closing status [⟨.error, some "ticket request failed", [("error", text)], []⟩]

theorem Closing.concern {status : Nat} {closing : List LogEvent} (h : Closing status closing) :
    ∀ e ∈ closing, e.concern = .failedRequest := by
  intro e he
  cases h with
  | silent => cases he
  | failed text =>
    obtain rfl := List.mem_singleton.1 he
    rfl

section Conclude

variable (s : TicketStore σ) (deadline : Option Nat) (time : Nat) (state : σ) (message : String)
  (toValue : α → Value)

/-- Concluding ends in the answer, and logs what goes with its status. -/
theorem exists_closing (result : Except TicketError α) :
    ∃ closing, Closing (answerTo message toValue result).status closing ∧
      (conclude message toValue result).trail s deadline time state = closing.map .logged ∧
      (conclude message toValue result).run s deadline time state =
        ⟨.ok (answerTo message toValue result), state, [], [], closing, time⟩ := by
  cases result with
  | ok a => exact ⟨[], .silent nofun nofun, rfl, rfl⟩
  | error e =>
    cases e with
    | validation m => exact ⟨[], .silent nofun nofun, rfl, rfl⟩
    | notFound m => exact ⟨[], .silent nofun nofun, rfl, rfl⟩
    | conflict m => exact ⟨[], .silent nofun nofun, rfl, rfl⟩
    | internal m => exact ⟨_, .failed _ (.inl rfl), rfl, rfl⟩
    | dependency m => exact ⟨_, .failed _ (.inr rfl), rfl, rfl⟩

end Conclude

/-! ## Requests -/

/-- A step that is taken for a request: the tickets are listed, or the online ticket is sold, or nothing is asked at
all. -/
inductive StepFor (s : TicketService) (id : Uuid) : {β : Type} → Plan β → Prop
  | nothing {β : Type} {result : Except TicketError β} :
      (∀ e, result = .error e → e.IsRefusal) → StepFor s id (.done result)
  | listing (x : AvailabilityRequest) : StepFor s id (s.resolve id x)
  | online (x : AvailabilityRequest) : StepFor s id (s.decideOnline id x)

theorem StepFor.tells {s : TicketService} {id : Uuid} {u : Plan β} (h : StepFor s id u) : u.Tells := by
  cases h with
  | nothing hrefusal => exact fun _ _ _ _ => .quiet hrefusal calm_nil
  | listing x => exact s.tells_resolve id x
  | online x => exact s.tells_decideOnline id x

/-- The plan of an answer asks and announces what the step does, and then logs what goes with the answer. -/
structure Concludes (u : Plan β) (p : Plan Response) (s : TicketStore σ) (deadline : Option Nat) (time : Nat)
    (state : σ) (a : Response) (closing : List LogEvent) : Prop where
  result : (p.run s deadline time state).result = .ok a
  closes : Closing a.status closing
  trail : p.trail s deadline time state = u.trail s deadline time state ++ closing.map .logged
  announcements : (p.run s deadline time state).announcements = (u.run s deadline time state).announcements

section Concludes

variable {u : Plan β} {p : Plan Response} {s : TicketStore σ} {deadline : Option Nat} {time : Nat} {state : σ}
  {a : Response} {closing : List LogEvent}

/-- What is made of the answer does not matter, if the status stays. -/
theorem Concludes.map (h : Concludes u p s deadline time state a closing) {f : Response → Response}
    (hf : ∀ a, (f a).status = a.status) :
    Concludes u (p >>= fun a => pure (f a)) s deadline time state (f a) closing := by
  refine ⟨?_, ?_, ?_, ?_⟩
  · rw [Plan.run_bind_pure, h.result]
    rfl
  · rw [hf]
    exact h.closes
  · rw [Plan.trail_bind, h.result, h.trail]
    exact List.append_nil _
  · rw [Plan.run_bind_pure]
    exact h.announcements

theorem concludes_attempt (u : Plan α) (message : String) (toValue : α → Value) :
    ∃ a closing, Concludes u (u.attempt >>= conclude message toValue) s deadline time state a closing := by
  obtain ⟨closing, hclosing, htrail, hrun⟩ := exists_closing s deadline (u.run s deadline time state).time
    (u.run s deadline time state).store message toValue (u.run s deadline time state).result
  refine ⟨_, closing, ?_, hclosing, ?_, ?_⟩
  · simp only [Plan.run_bind, Plan.run_attempt, Run.andThen, hrun]
  · simp only [Plan.trail_bind, Plan.trail_attempt, Plan.run_attempt, htrail]
  · simp only [Plan.run_bind, Plan.run_attempt, Run.andThen, hrun, List.append_nil]

end Concludes

/-- The plan answers a request with some step, whatever the store answers and however long that takes. -/
def AnswersWith (s : TicketService) (id : Uuid) (p : Plan Response) : Prop :=
  ∀ (σ : Type) (store : TicketStore σ) (deadline : Option Nat) (time : Nat) (state : σ),
    ∃ (β : Type) (u : Plan β) (a : Response) (closing : List LogEvent),
      StepFor s id u ∧ Concludes u p store deadline time state a closing

section Answers

variable {s : TicketService} {id : Uuid}

theorem AnswersWith.map {p : Plan Response} (h : AnswersWith s id p) {f : Response → Response}
    (hf : ∀ a, (f a).status = a.status) : AnswersWith s id (p >>= fun a => pure (f a)) := by
  intro σ store deadline time state
  obtain ⟨β, u, a, closing, hstep, hconcludes⟩ := h σ store deadline time state
  exact ⟨β, u, f a, closing, hstep, hconcludes.map hf⟩

theorem answersWith_pure {a : Response} (h : a.status < 500) : AnswersWith s id (pure a) := by
  intro σ store deadline time state
  have hclosing : Closing a.status [] := .silent (by omega) (by omega)
  exact ⟨Unit, .done (.ok ()), a, [], .nothing nofun, rfl, hclosing, rfl, rfl⟩

theorem answersWith_attempt {u : Plan α} (hu : StepFor s id u) (message : String) (toValue : α → Value) :
    AnswersWith s id (u.attempt >>= conclude message toValue) := by
  intro σ store deadline time state
  obtain ⟨a, closing, hconcludes⟩ : ∃ a closing,
      Concludes u (u.attempt >>= conclude message toValue) store deadline time state a closing :=
    concludes_attempt u message toValue
  exact ⟨α, u, a, closing, hu, hconcludes⟩

theorem isRefusal_of_parseOption {kind : IdKind} {text : Option String} {e : TicketError}
    (h : Id.parseOption kind text = .error e) : e.IsRefusal := by
  unfold Id.parseOption Id.parse at h
  split at h
  · cases h
    exact .validation _
  · cases h

/-- Parameters that make no request are refused. -/
theorem isRefusal_of_toRequest {params : Params} {e : TicketError} (h : params.toRequest = .error e) :
    e.IsRefusal := by
  unfold Params.toRequest AvailabilityRequest.parse at h
  cases hcountry : Id.parseOption .country params.countryCode with
  | error e' =>
    rw [hcountry] at h
    cases h
    exact isRefusal_of_parseOption hcountry
  | ok countryCode =>
    cases hevent : Id.parseOption .event params.eventId with
    | error e' =>
      rw [hcountry, hevent] at h
      cases h
      exact isRefusal_of_parseOption hevent
    | ok eventId =>
      rw [hcountry, hevent] at h
      cases h

theorem answersWith_ask (query : Option String) (message : String) (toValue : α → Value)
    {plan : AvailabilityRequest → Plan α} (hplan : ∀ x, StepFor s id (plan x)) :
    AnswersWith s id (ask query message toValue plan) := by
  unfold ask
  split
  · exact answersWith_pure (show 400 < 500 by decide)
  · next params _ =>
    split
    · next e he =>
      have hrefusal : StepFor s id (Plan.fail e : Plan α) := by
        refine .nothing fun e' he' => ?_
        cases he'
        exact isRefusal_of_toRequest he
      exact answersWith_attempt hrefusal message toValue
    · next x _ => exact answersWith_attempt (hplan x) message toValue

variable (app : App) (fresh : Uuid) (r : Request)

theorem answersWith_serve (query : Option String) (endpoint : Endpoint) :
    AnswersWith app.service id (app.serve id query endpoint) := by
  cases endpoint with
  | health => exact answersWith_pure (show 200 < 500 by decide)
  | listing => exact answersWith_ask query _ _ .listing
  | online => exact answersWith_ask query _ _ .online

theorem answersWith_route (endpoint : Endpoint) : AnswersWith app.service id (app.route id r endpoint) := by
  unfold route
  split
  · exact answersWith_serve app _ endpoint
  · split
    · exact (answersWith_serve app _ endpoint).map fun _ => rfl
    · exact answersWith_pure (show 405 < 500 by decide)

theorem answersWith_handle : AnswersWith app.service (requestId fresh r) (app.handle fresh r) := by
  unfold handle
  dsimp only
  split
  · exact answersWith_route app r .health
  · exact (answersWith_route app r _).map fun _ => rfl
  · exact answersWith_pure (show 404 < 500 by decide)

end Answers

/-! ## Logs -/

section Logs

variable (s : TicketService) (store : TicketStore σ) (publisher : Publisher π) (deadline : Option Nat)
  (state : σ × π)

/-- The log of a step has a trail that tells of its questions and its messages. -/
structure StepLog (plan : Plan α) : Prop where
  trail : IsTrailOf publisher state.2 (s.perform store publisher deadline state plan)
    (s.trail store publisher deadline state plan)
  told : ToldBy (s.perform store publisher deadline state plan).result []
    (s.trail store publisher deadline state plan)

theorem stepLog {plan : Plan α} (h : plan.Tells) : StepLog s store publisher deadline state plan :=
  ⟨s.isTrailOf store publisher deadline state plan, s.toldBy store publisher deadline state h⟩

/-- The log of a request that is answered with a step has the trail of the step, closed before the messages are sent
as the status of the answer wants it. -/
structure RequestLog (app : App) (store : TicketStore σ) (publisher : Publisher π) (state : σ × π) (fresh : Uuid)
    (r : Request) (step : Plan β) (a : Response) (closing : List LogEvent) : Prop where
  result : (app.respond store publisher state fresh r).result = .ok a
  closes : Closing a.status closing
  trail : IsTrailOf publisher state.2 (app.respond store publisher state fresh r)
    (app.service.trail store publisher (some app.timeout) state (app.handle fresh r))
  told : ToldBy (app.service.perform store publisher (some app.timeout) state step).result closing
    (app.service.trail store publisher (some app.timeout) state (app.handle fresh r))
  step : ∃ asking sending, app.service.trail store publisher (some app.timeout) state step = asking ++ sending ∧
    app.service.trail store publisher (some app.timeout) state (app.handle fresh r) =
      asking ++ closing.map .logged ++ sending

/-- A request is answered with a step, and logged as the step is. -/
theorem exists_requestLog (app : App) (fresh : Uuid) (r : Request) :
    ∃ (β : Type) (step : Plan β) (a : Response) (closing : List LogEvent),
      StepFor app.service (requestId fresh r) step ∧
        RequestLog app store publisher state fresh r step a closing := by
  obtain ⟨β, u, a, closing, hstep, h⟩ := answersWith_handle app fresh r σ store (some app.timeout) 0 state.1
  have hsplit : app.service.trail store publisher (some app.timeout) state (app.handle fresh r) =
      u.trail store (some app.timeout) 0 state.1 ++ closing.map .logged ++
        app.service.notifier.trail publisher state.2
          (u.run store (some app.timeout) 0 state.1).announcements := by
    rw [TicketService.trail, h.trail, h.announcements]
  have htold := toldBy_of_parts (hstep.tells store (some app.timeout) 0 state.1)
    (u.filterMap_delivery?_trail store (some app.timeout) 0 state.1) h.closes.concern
    (app.service.notifier.reported_trail publisher state.2
      (u.run store (some app.timeout) 0 state.1).announcements)
  rw [← hsplit] at htold
  exact ⟨β, u, a, closing, hstep, h.result, h.closes,
    app.service.isTrailOf store publisher (some app.timeout) state (app.handle fresh r), htold, _, _, rfl, hsplit⟩

end Logs

/-- The log of `resolve`, `suggest` and `decideOnline` tells which question failed or came to nothing, and what became
of each message, whatever the store and the publisher do. The log of a request has the same trail as that of the step
it is answered with, and one event more if and only if the answer blames the server. -/
theorem steps_leave_log_trail (s : TicketService) (store : TicketStore σ) (publisher : Publisher π)
    (deadline : Option Nat) (state : σ × π) (id : Uuid) (outer : List Span) (x : AvailabilityRequest) (tag : Tag) :
    StepLog s store publisher deadline state (s.resolve id x) ∧
      StepLog s store publisher deadline state (s.suggest outer id tag) ∧
      StepLog s store publisher deadline state (s.decideOnline id x) ∧
      ∀ (timeout : Nat) (fresh : Uuid) (r : Request), ∃ (β : Type) (step : Plan β) (a : Response)
        (closing : List LogEvent), StepFor s (requestId fresh r) step ∧
          RequestLog ⟨s, timeout⟩ store publisher state fresh r step a closing :=
  ⟨stepLog s store publisher deadline state (s.tells_resolve id x),
    stepLog s store publisher deadline state (s.tells_suggest outer id tag),
    stepLog s store publisher deadline state (s.tells_decideOnline id x),
    fun timeout fresh r => exists_requestLog store publisher state ⟨s, timeout⟩ fresh r⟩

end BoxOffice.Http
