import BoxOffice.Proofs.Http.Answer
import BoxOffice.Proofs.Session.Alike
import BoxOffice.Proofs.Uuid

/-!
# Identifiers of requests

A request about tickets is answered with an identifier in a header: the one that the caller gives, or a fresh one.

1. A header value names an identifier if it is a spelling of it between blanks (`Names`). It is read as the
   identifier that it names (`idOfHeader?_eq_some_iff`).
2. Nothing that is answered at an endpoint has the header of itself (`EndsUnmarked`), so the one that is put into
   it is the only one (`carries_respond`).
3. Requests that differ in their headers only are answered alike but for that header, and the same is asked and
   published for them (`apart_respond`).
-/

namespace BoxOffice.Http

open BoxOffice.Json BoxOffice.Text BoxOffice.Http.App

variable {σ π α : Type}

/-! ## Header values -/

/-- The header value is a spelling of the identifier, between spaces and tabs. -/
inductive Names (u : Uuid) (value : String) : Prop
  | between {before text after : List Char} : value.toList = before ++ text ++ after →
      (∀ c ∈ before, c = ' ' ∨ c = '\t') → (∀ c ∈ after, c = ' ' ∨ c = '\t') → u.SpelledBy text → Names u value

section Names

variable {u : Uuid} {value : String} {c : Char}

/-- Of the blanks, a header value shows spaces and tabs only. -/
theorem isBlank_and_isVisible_iff :
    isBlank c = true ∧ Request.isVisible c = true ↔ c = ' ' ∨ c = '\t' := by
  have hspace : c = ' ' ↔ c.toNat = 32 := Char.toNat_inj.symm
  have htab : c = '\t' ↔ c.toNat = 9 := Char.toNat_inj.symm
  have hlow : ' ' ≤ c ↔ 32 ≤ c.toNat := Iff.rfl
  have hhigh : c ≤ '~' ↔ c.toNat ≤ 126 := Iff.rfl
  simp only [isBlank, Request.isVisible, Bool.or_eq_true, Bool.and_eq_true, decide_eq_true_eq, beq_iff_eq,
    hspace, htab, hlow, hhigh]
  omega

theorem isVisible_of_isGraphic (h : Uuid.IsGraphic c) : Request.isVisible c = true := by
  have hspace : ' ' ≤ c := Nat.le_trans (show ' '.toNat ≤ '!'.toNat by decide) h.1
  simp [Request.isVisible, hspace, h.2]

/-- A value names an identifier if all its characters can be seen and it is a spelling when it is trimmed. -/
theorem names_iff : Names u value ↔
    (∀ c ∈ value.toList, Request.isVisible c = true) ∧ u.SpelledBy (trimChars value.toList) := by
  constructor
  · rintro @⟨before, text, after, hsplit, hbefore, hafter, hspelled⟩
    rw [hsplit]
    constructor
    · intro c hc
      rw [List.mem_append, List.mem_append] at hc
      rcases hc with (hc | hc) | hc
      · exact (isBlank_and_isVisible_iff.2 (hbefore c hc)).2
      · exact isVisible_of_isGraphic (hspelled.isGraphic c hc)
      · exact (isBlank_and_isVisible_iff.2 (hafter c hc)).2
    · have hblank : ∀ c, c = ' ' ∨ c = '\t' → isBlank c = true := fun c hc => (isBlank_and_isVisible_iff.2 hc).1
      have htrim : trimChars (before ++ text ++ after) = text :=
        trimChars_padded_of_trimmed (fun c hc => hblank c (hbefore c hc)) (fun c hc => hblank c (hafter c hc))
          hspelled.ne_nil hspelled.trimmed
      rwa [htrim]
  · rintro ⟨hvisible, hspelled⟩
    obtain ⟨before, after, hsplit, hbefore, hafter⟩ := exists_eq_append_trimChars value.toList
    refine .between hsplit (fun c hc => ?_) (fun c hc => ?_) hspelled
    · refine isBlank_and_isVisible_iff.1 ⟨hbefore c hc, hvisible c ?_⟩
      rw [hsplit]
      exact List.mem_append_left _ (List.mem_append_left _ hc)
    · refine isBlank_and_isVisible_iff.1 ⟨hafter c hc, hvisible c ?_⟩
      rw [hsplit]
      exact List.mem_append_right _ hc

theorem idOfHeader?_eq_some_iff : Request.idOfHeader? value = some u ↔ Names u value := by
  rw [names_iff, ← Uuid.parse?_eq_some_iff, ← List.all_eq_true]
  unfold Request.idOfHeader?
  split
  · next hvisible => exact ⟨fun h => ⟨hvisible, h⟩, And.right⟩
  · next hhidden => exact ⟨nofun, fun h => absurd h.1 hhidden⟩

/-- The canonical form names the identifier that it is the form of. -/
theorem names_text (u : Uuid) : Names u u.text := by
  have hsplit : u.text.toList = [] ++ u.text.toList ++ [] := by rw [List.nil_append, List.append_nil]
  exact .between hsplit nofun nofun u.spelledBy_text

end Names

/-! ## The identifier of a request -/

section RequestId

variable {fresh u : Uuid} {r : Request} {value : String}

/-- What is named in the header is the identifier of the request. -/
theorem requestId_of_names (hvalue : r.header? "x-request-id" = some value) (h : Names u value) :
    requestId fresh r = u := by
  rw [requestId, Request.requestId?, hvalue, Option.bind_some, idOfHeader?_eq_some_iff.2 h, Option.getD_some]

/-- Where the header names nothing, or is missing, the request gets the fresh identifier. -/
theorem requestId_of_unnamed (h : ∀ value, r.header? "x-request-id" = some value → ∀ u, ¬ Names u value) :
    requestId fresh r = fresh := by
  have hnone : r.requestId? = none := by
    refine Option.eq_none_iff_forall_ne_some.2 fun u hu => ?_
    obtain ⟨value, hvalue, hid⟩ := Option.bind_eq_some_iff.1 hu
    exact h value hvalue u (idOfHeader?_eq_some_iff.1 hid)
  rw [requestId, hnone, Option.getD_none]

end RequestId

/-! ## Responses without identifiers -/

/-- The values of the header for identifiers. -/
def Response.identifiers (a : Response) : List String :=
  (a.headers.filter fun h => h.1.toLower == "x-request-id").map Prod.snd

/-- The plan ends in a response without that header, whatever the store does. -/
def EndsUnmarked (p : Plan Response) : Prop :=
  ∀ (σ : Type) (store : TicketStore σ) (deadline : Option Nat) (time : Nat) (state : σ),
    ∃ a, (p.run store deadline time state).result = .ok a ∧ a.identifiers = []

theorem identifiers_withRequestId {a : Response} (h : a.identifiers = []) (u : Uuid) :
    (withRequestId u a).identifiers = [u.text] := by
  have hname : ("x-request-id".toLower == "x-request-id") = true := by decide +kernel
  unfold Response.identifiers at h ⊢
  simp only [withRequestId, Response.withHeader, List.filter_append, List.map_append, h, List.nil_append,
    List.filter_cons, hname, if_true, List.filter_nil, List.map_cons, List.map_nil]

/-- The names of the headers that a response has of itself. -/
def ownHeaders : List String := ["content-type", "content-length", "allow"]

theorem identifiers_eq_nil {a : Response} (h : ∀ header ∈ a.headers, header.1 ∈ ownHeaders) :
    a.identifiers = [] := by
  have hother : ∀ name ∈ ownHeaders, (name.toLower == "x-request-id") = false := by decide +kernel
  have hnone : (a.headers.filter fun h => h.1.toLower == "x-request-id") = [] :=
    List.filter_eq_nil_iff.2 fun header hmem => by simp [hother header.1 (h header hmem)]
  rw [Response.identifiers, hnone, List.map_nil]

section Unmarked

variable {plan : AvailabilityRequest → Plan α}

theorem identifiers_empty (status : Nat) : (Response.empty status).identifiers = [] :=
  identifiers_eq_nil (by simp [Response.empty, Response.sizeHeader, ownHeaders])

theorem identifiers_text (status : Nat) (body : String) : (Response.text status body).identifiers = [] :=
  identifiers_eq_nil (by simp [Response.text, Response.sizeHeader, ownHeaders])

theorem identifiers_json (status : Nat) (v : Value) : (Response.json status v).identifiers = [] :=
  identifiers_eq_nil (by simp [Response.json, Response.sizeHeader, ownHeaders])

theorem identifiers_methodNotAllowed : methodNotAllowed.identifiers = [] :=
  identifiers_eq_nil
    (by simp [methodNotAllowed, Response.withHeader, Response.empty, Response.sizeHeader, ownHeaders])

theorem endsUnmarked_pure {a : Response} (h : a.identifiers = []) : EndsUnmarked (pure a) :=
  fun _ _ _ _ _ => ⟨a, rfl, h⟩

theorem endsUnmarked_conclude (message : String) (toValue : α → Value) (result : Except TicketError α) :
    EndsUnmarked (conclude message toValue result) := by
  intro σ store deadline time state
  obtain ⟨events, hrun⟩ := run_conclude store deadline time state message toValue result
  rw [hrun]
  refine ⟨_, rfl, ?_⟩
  cases result <;> exact identifiers_json _ _

theorem endsUnmarked_ask (query : Option String) (message : String) (toValue : α → Value) :
    EndsUnmarked (ask query message toValue plan) := by
  unfold ask
  split
  · exact endsUnmarked_pure (identifiers_text _ _)
  · split
    · exact endsUnmarked_conclude message toValue _
    · next request _ =>
      intro σ store deadline time state
      rw [Plan.run_bind, Plan.run_attempt]
      exact endsUnmarked_conclude message toValue _ σ store deadline _ _

variable (app : App) (id : Uuid)

theorem endsUnmarked_serve (query : Option String) (endpoint : Endpoint) :
    EndsUnmarked (app.serve id query endpoint) := by
  cases endpoint with
  | health => exact endsUnmarked_pure (identifiers_empty 200)
  | listing => exact endsUnmarked_ask query _ _
  | online => exact endsUnmarked_ask query _ _

/-- Nothing that is answered at an endpoint has the header of itself. -/
theorem endsUnmarked_route (r : Request) (endpoint : Endpoint) : EndsUnmarked (app.route id r endpoint) := by
  unfold route
  split
  · exact endsUnmarked_serve app id _ endpoint
  · split
    · intro σ store deadline time state
      obtain ⟨a, hresult, hnone⟩ := endsUnmarked_serve app id r.target.query endpoint σ store deadline time state
      rw [Plan.run_bind_pure, hresult]
      exact ⟨a.withoutBody, rfl, hnone⟩
    · exact endsUnmarked_pure identifiers_methodNotAllowed

end Unmarked

/-! ## Answers -/

/-- The request is for one of the endpoints for tickets. -/
def AsksForTickets (r : Request) : Prop :=
  r.target.path = "/api/tickets/v1/list" ∨ r.target.path = "/api/tickets/v1/online"

/-- A response is given that has one header for the identifier, with the text. -/
def Carries (p : Performance σ π Response) (text : String) : Prop :=
  ∃ a, p.result = .ok a ∧ a.identifiers = [text]

/-- The performances differ in the identifiers of their responses and in what they log, and in nothing else. -/
structure Apart (p p' : Performance σ π Response) : Prop where
  answer : ∃ (a : Response) (u u' : Uuid), a.identifiers = [] ∧ p.result = .ok (withRequestId u a) ∧
    p'.result = .ok (withRequestId u' a)
  calls : p'.calls = p.calls
  published : p'.published = p.published
  store : p'.store = p.store
  publisher : p'.publisher = p.publisher
  time : p'.time = p.time

section Respond

variable {app : App} {store : TicketStore σ} {publisher : Publisher π} {state : σ × π} {fresh fresh' : Uuid}
  {r r' : Request}

theorem Carries.unique {p : Performance σ π Response} {text text' : String} (h : Carries p text)
    (h' : Carries p text') : text = text' := by
  obtain ⟨a, hresult, htext⟩ := h
  obtain ⟨a', hresult', htext'⟩ := h'
  obtain rfl : a = a' := Except.ok.inj (hresult.symm.trans hresult')
  exact (List.cons.inj (htext.symm.trans htext')).1

theorem AsksForTickets.exists_endpoint (h : AsksForTickets r) :
    ∃ endpoint, Endpoint.ofPath? r.target.path = some endpoint ∧ endpoint ≠ .health := by
  rcases h with hpath | hpath
  · exact ⟨.listing, by rw [hpath]; decide, nofun⟩
  · exact ⟨.online, by rw [hpath]; decide, nofun⟩

/-- The response carries the identifier of the request. -/
theorem carries_respond (h : AsksForTickets r) :
    Carries (app.respond store publisher state fresh r) (requestId fresh r).text := by
  obtain ⟨endpoint, hpath, hask⟩ := h.exists_endpoint
  obtain ⟨a, hresult, hnone⟩ :=
    endsUnmarked_route app (requestId fresh r) r endpoint σ store (some app.timeout) 0 state.1
  refine ⟨withRequestId (requestId fresh r) a, ?_, identifiers_withRequestId hnone _⟩
  rw [respond, perform_result, handle_of_endpoint app fresh hpath hask, Plan.run_bind_pure, hresult]
  rfl

/-- Alike plans are performed apart, if they are given identifiers at the end. -/
theorem apart_perform {s : TicketService} {plan plan' : Plan Response} (halike : plan.Alike id plan')
    (hunmarked : EndsUnmarked plan) (deadline : Option Nat) (u u' : Uuid) :
    Apart (s.perform store publisher deadline state (plan >>= fun a => pure (withRequestId u a)))
      (s.perform store publisher deadline state (plan' >>= fun a => pure (withRequestId u' a))) := by
  have hrun := halike.run store deadline 0 state.1
  obtain ⟨a, hresult, hnone⟩ := hunmarked σ store deadline 0 state.1
  have hsame := hrun.result
  rw [Except.map_id] at hsame
  have hresult' : (plan'.run store deadline 0 state.1).result = .ok a := hsame.symm.trans hresult
  let p := s.perform store publisher deadline state (plan >>= fun a => pure (withRequestId u a))
  let p' := s.perform store publisher deadline state (plan' >>= fun a => pure (withRequestId u' a))
  have hpublished : p'.published = p.published := by
    rw [perform_published, perform_published, Plan.run_bind_pure, Plan.run_bind_pure]
    exact congrArg (List.map s.notifier.message) hrun.notifications.symm
  constructor
  · refine ⟨a, u, u', hnone, ?_, ?_⟩
    · rw [perform_result, Plan.run_bind_pure, hresult]
      rfl
    · rw [perform_result, Plan.run_bind_pure, hresult']
      rfl
  · simp only [TicketService.perform, Plan.run_bind_pure, hrun.calls]
  · exact hpublished
  · simp only [TicketService.perform, Plan.run_bind_pure, hrun.store]
  · rw [perform_publisher, perform_publisher, hpublished]
  · simp only [TicketService.perform, Plan.run_bind_pure, hrun.time]

/-- Requests that differ in their headers only are answered apart. -/
theorem apart_respond (h : AsksForTickets r) (hmethod : r'.method = r.method) (htarget : r'.target = r.target) :
    Apart (app.respond store publisher state fresh r) (app.respond store publisher state fresh' r') := by
  obtain ⟨endpoint, hpath, hask⟩ := h.exists_endpoint
  have hroute : app.route (requestId fresh' r') r' endpoint = app.route (requestId fresh' r') r endpoint := by
    unfold route
    rw [hmethod, htarget]
  rw [respond, respond, handle_of_endpoint app fresh hpath hask,
    handle_of_endpoint app fresh' (htarget ▸ hpath) hask, hroute]
  have halike := alike_route id app.service.policy app.service.notifier app.service.notifier app.timeout
    (requestId fresh r) (requestId fresh' r') r endpoint
  exact apart_perform halike (endsUnmarked_route app _ r endpoint) (some app.timeout) _ _

end Respond

/-- How the identifier of a request about tickets is echoed. -/
structure EchoesIdentifier (app : App) (store : TicketStore σ) (publisher : Publisher π) (state : σ × π)
    (fresh : Uuid) (r : Request) : Prop where
  canonical : ∃ (u : Uuid) (text : String), u.Canonical text ∧
    Carries (app.respond store publisher state fresh r) text
  named : ∀ value u, r.header? "x-request-id" = some value → Names u value →
    ∀ text, Carries (app.respond store publisher state fresh r) text ↔ u.Canonical text
  unnamed : (∀ value, r.header? "x-request-id" = some value → ∀ u, ¬ Names u value) →
    ∀ text, Carries (app.respond store publisher state fresh r) text ↔ fresh.Canonical text
  spellings : ∀ value u, r.header? "x-request-id" = some value → Names u value →
    ∀ state' fresh' r' value' u', AsksForTickets r' → r'.header? "x-request-id" = some value' → Names u' value' →
      ((∃ text, Carries (app.respond store publisher state fresh r) text ∧
        Carries (app.respond store publisher state' fresh' r') text) ↔ u = u')
  again : ∀ text, Carries (app.respond store publisher state fresh r) text →
    ∀ state' fresh' r', AsksForTickets r' → r'.header? "x-request-id" = some text →
      Carries (app.respond store publisher state' fresh' r') text
  apart : ∀ fresh' r', r'.method = r.method → r'.target = r.target →
    Apart (app.respond store publisher state fresh r) (app.respond store publisher state fresh' r')

section Echo

variable {app : App} {store : TicketStore σ} {publisher : Publisher π} {state : σ × π} {fresh u : Uuid}
  {r : Request}

/-- What the response carries is the canonical form of the identifier of the request, and nothing else. -/
theorem carries_iff (h : AsksForTickets r) (hid : requestId fresh r = u) (text : String) :
    Carries (app.respond store publisher state fresh r) text ↔ u.Canonical text := by
  rw [Uuid.canonical_iff, ← hid]
  have hcarries : Carries (app.respond store publisher state fresh r) (requestId fresh r).text :=
    carries_respond h
  constructor
  · exact fun htext => htext.unique hcarries
  · rintro rfl
    exact hcarries

end Echo

/-- Whatever the store does, a request about tickets is answered with one identifier, in canonical form. It is the
one that the header of the request names, in whichever spelling, or the fresh one. What else is answered, asked and
published does not depend on the headers. -/
theorem identifier_echoed (app : App) (store : TicketStore σ) (publisher : Publisher π) (state : σ × π)
    (fresh : Uuid) (r : Request) (h : AsksForTickets r) :
    EchoesIdentifier app store publisher state fresh r where
  canonical := ⟨requestId fresh r, _, Uuid.canonical_iff.2 rfl, carries_respond h⟩
  named value u hvalue hnames := carries_iff h (requestId_of_names hvalue hnames)
  unnamed hunnamed := carries_iff h (requestId_of_unnamed hunnamed)
  spellings value u hvalue hnames state' fresh' r' value' u' h' hvalue' hnames' := by
    have hid : requestId fresh r = u := requestId_of_names hvalue hnames
    have hid' : requestId fresh' r' = u' := requestId_of_names hvalue' hnames'
    simp only [carries_iff h hid, carries_iff h' hid', Uuid.canonical_iff]
    constructor
    · rintro ⟨text, htext, htext'⟩
      exact Uuid.text_injective (htext.symm.trans htext')
    · rintro rfl
      exact ⟨_, rfl, rfl⟩
  again text hcarries state' fresh' r' h' hvalue := by
    obtain rfl := Uuid.canonical_iff.1 ((carries_iff h rfl text).1 hcarries)
    exact (carries_iff h' (requestId_of_names hvalue (names_text _)) _).2 (Uuid.canonical_iff.2 rfl)
  apart fresh' r' hmethod htarget := apart_respond h hmethod htarget

/-- An identifier in braces, in letters of either case and between blanks, is echoed in canonical form. A second
header is not looked at. -/
theorem identifier_in_braces_echoed :
    let u : Uuid := ⟨[1, 2, 3, 14, 4, 5, 6, 7, 14, 8, 9, 11, 4, 2, 13, 3] ++
      [10, 4, 5, 6, 4, 2, 6, 6, 1, 4, 1, 7, 4, 0, 0, 0], rfl⟩
    let value := "\t\x7b123E4567-e89b-42D3-A456-426614174000\x7d "
    let r : Request := ⟨"GET", ⟨"/api/tickets/v1/online", "countryCode=ID&eventId=e-1"⟩,
      [("X-Request-Id", value), ("x-request-id", "")]⟩
    let app : App := ⟨.withTopic standardTopic, 1000⟩
    let fresh : Uuid := ⟨List.replicate 32 0, rfl⟩
    AsksForTickets r ∧ r.header? "x-request-id" = some value ∧ Names u value ∧
      Carries (app.respond MemoryStore.store .refusing (.empty, ()) fresh r)
        "123e4567-e89b-42d3-a456-426614174000" := by
  intro u value r app fresh
  have hasks : AsksForTickets r := .inr rfl
  have hvalue : r.header? "x-request-id" = some value := by decide +kernel
  have hnames : Names u value := idOfHeader?_eq_some_iff.1 (by decide +kernel)
  have htext : u.Canonical "123e4567-e89b-42d3-a456-426614174000" := Uuid.canonical_iff.2 (by decide +kernel)
  have hechoed := identifier_echoed app MemoryStore.store .refusing (.empty, ()) fresh r hasks
  exact ⟨hasks, hvalue, hnames, (hechoed.named value u hvalue hnames _).2 htext⟩

end BoxOffice.Http
