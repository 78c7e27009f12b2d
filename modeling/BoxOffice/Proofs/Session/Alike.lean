import BoxOffice.Http.App
import BoxOffice.Proofs.Service.Stages

/-!
# Plans that differ in what they log

1. Two plans are alike (`Plan.Alike`) if they ask the same questions, make the same announcements and
   end in results that look the same, each to the same answers of a store. What they log, and in which
   spans, may differ.
2. Alike plans run alike over every store (`Plan.Alike.run`), and are put together to alike plans
   (`Plan.Alike.bind`, `Plan.Alike.attempt`).
3. The identifier of a request and the notifier of the service are for the log and for messages only:
   with others in their place, the plans of the service and of the application are alike
   (`TicketService.alike_resolve`, `Http.App.alike_handle`).
-/

namespace BoxOffice

variable {σ α β γ δ : Type}

namespace Plan

/-- The plans differ at most in what they log, and in parts of their results that are not viewed. -/
inductive Alike (view : α → β) : Plan α → Plan α → Prop
  | done {result result' : Except TicketError α} :
      result.map view = result'.map view → Alike view (.done result) (.done result')
  | many {spans spans' : List Span} {q : TicketQuery}
      {next next' : StoreResult (Option (List TicketRecord)) → Plan α} :
      (∀ outcome, Alike view (next outcome) (next' outcome)) →
      Alike view (.many spans q next) (.many spans' q next')
  | one {spans spans' : List Span} {q : TicketQuery}
      {next next' : StoreResult (Option TicketRecord) → Plan α} :
      (∀ outcome, Alike view (next outcome) (next' outcome)) →
      Alike view (.one spans q next) (.one spans' q next')
  | log {e e' : LogEvent} {next next' : Plan α} :
      Alike view next next' → Alike view (.log e next) (.log e' next')
  | announce {n : SwitchNotification} {spans spans' : List Span} {next next' : Plan α} :
      Alike view next next' → Alike view (.announce ⟨n, spans⟩ next) (.announce ⟨n, spans'⟩ next')

variable {view : α → γ} {view' : β → δ}

@[refl] theorem Alike.refl (view : α → γ) (p : Plan α) : Alike view p p := by
  induction p with
  | done result => exact .done rfl
  | many spans q next ih => exact .many ih
  | one spans q next ih => exact .one ih
  | log e next ih => exact .log ih
  | announce a next ih => exact .announce ih

/-- Of results that look the same, both are errors or neither is, and the errors are the same. -/
theorem map_eq_map_cases {result result' : Except TicketError α}
    (h : result.map view = result'.map view) :
    (∃ a a', result = .ok a ∧ result' = .ok a' ∧ view a = view a') ∨
      ∃ e, result = .error e ∧ result' = .error e := by
  cases result with
  | ok a =>
    cases result' with
    | ok a' => exact .inl ⟨a, a', rfl, rfl, Except.ok.inj h⟩
    | error e' => cases h
  | error e =>
    cases result' with
    | ok a' => cases h
    | error e' => exact .inr ⟨e, rfl, congrArg Except.error (Except.error.inj h).symm⟩

/-! ## Composition -/

theorem Alike.bind {p p' : Plan α} {f f' : α → Plan β} (h : p.Alike view p')
    (hf : ∀ a a', view a = view a' → (f a).Alike view' (f' a')) :
    (p >>= f).Alike view' (p' >>= f') := by
  induction h with
  | done h =>
    rcases map_eq_map_cases h with ⟨a, a', rfl, rfl, heq⟩ | ⟨e, rfl, rfl⟩
    · exact hf a a' heq
    · exact .done rfl
  | many _ ih => exact .many ih
  | one _ ih => exact .one ih
  | log _ ih => exact .log ih
  | announce _ ih => exact .announce ih

theorem Alike.attempt {p p' : Plan α} (h : p.Alike view p') :
    p.attempt.Alike (Except.map view) p'.attempt := by
  induction h with
  | done h => exact .done (congrArg Except.ok h)
  | many _ ih => exact .many ih
  | one _ ih => exact .one ih
  | log _ ih => exact .log ih
  | announce _ ih => exact .announce ih

theorem alike_pure {a a' : α} (h : view a = view a') :
    (pure a : Plan α).Alike view (pure a') :=
  .done (congrArg Except.ok h)

section Steps

variable {f f' : β → Plan α} {spans spans' : List Span}

theorem alike_classify_bind (hf : ∀ data, (f data).Alike view (f' data)) (operation absent : String)
    (outcome : StoreResult (Option β)) :
    (classify spans operation absent outcome >>= f).Alike view
      (classify spans' operation absent outcome >>= f') := by
  rcases outcome with e | _ | data
  · exact .log (.done rfl)
  · exact .log (.done rfl)
  · exact hf data

/-- The same question is asked, in whatever spans. -/
theorem alike_lookupMany_bind {f f' : List TicketRecord → Plan α}
    (hf : ∀ data, (f data).Alike view (f' data)) (absent : String) (q : TicketQuery) :
    (lookupMany spans absent q >>= f).Alike view (lookupMany spans' absent q >>= f') :=
  .many fun outcome => alike_classify_bind hf q.operation absent outcome

theorem alike_lookupOne_bind {f f' : TicketRecord → Plan α}
    (hf : ∀ data, (f data).Alike view (f' data)) (absent : String) (q : TicketQuery) :
    (lookupOne spans absent q >>= f).Alike view (lookupOne spans' absent q >>= f') :=
  .one fun outcome => alike_classify_bind hf q.operation absent outcome

end Steps

end Plan

/-! ## Runs -/

/-- The runs differ at most in what was logged, and in parts of their results that are not viewed. -/
structure Run.Alike (view : α → β) (r r' : Run σ α) : Prop where
  result : r.result.map view = r'.result.map view
  store : r.store = r'.store
  calls : r.calls = r'.calls
  notifications :
    r.announcements.map Announcement.notification = r'.announcements.map Announcement.notification
  time : r.time = r'.time

theorem Run.Alike.after {view : α → β} {r r' : Run σ α} (h : r.Alike view r') (q : TicketQuery)
    (events events' : List LogEvent) : (r.after q events).Alike view (r'.after q events') where
  result := h.result
  store := h.store
  calls := congrArg (List.cons q) h.calls
  notifications := h.notifications
  time := h.time

/-- Alike plans run alike, whatever the store answers. -/
theorem Plan.Alike.run {view : α → β} {p p' : Plan α} (h : p.Alike view p') (s : TicketStore σ)
    (deadline : Option Nat) (time : Nat) (state : σ) :
    (p.run s deadline time state).Alike view (p'.run s deadline time state) := by
  induction h generalizing time state with
  | done h => exact ⟨h, rfl, rfl, rfl, rfl⟩
  | many _ ih => exact (ih _ _ _).after _ _ _
  | one _ ih => exact (ih _ _ _).after _ _ _
  | log _ ih =>
    have hrest := ih time state
    exact ⟨hrest.result, hrest.store, hrest.calls, hrest.notifications, hrest.time⟩
  | announce _ ih =>
    have hrest := ih time state
    exact ⟨hrest.result, hrest.store, hrest.calls, congrArg (List.cons _) hrest.notifications,
      hrest.time⟩

/-! ## The service -/

namespace TicketService

variable (policy : AvailabilityPolicy) (notifier notifier' : Notifier) (u u' : Uuid)
  (r : AvailabilityRequest)

theorem alike_suggest (outer outer' : List Span) (tag : Tag) :
    ((⟨policy, notifier⟩ : TicketService).suggest outer u tag).Alike id
      ((⟨policy, notifier'⟩ : TicketService).suggest outer' u' tag) := by
  rw [suggest_eq, suggest_eq]
  refine Plan.alike_lookupMany_bind (fun cheapest => ?_) _ _
  cases cheapest with
  | nil => exact .log (.done rfl)
  | cons winner others => exact Plan.alike_lookupMany_bind (fun alternatives => .done rfl) _ _

theorem alike_resolve :
    ((⟨policy, notifier⟩ : TicketService).resolve u r).Alike id
      ((⟨policy, notifier'⟩ : TicketService).resolve u' r) := by
  rw [resolve_eq, resolve_eq]
  refine Plan.alike_lookupMany_bind (fun offline => ?_) _ _
  unfold complete
  dsimp only
  split
  · refine .log ((alike_suggest policy notifier notifier' u u' _ _ _).bind ?_)
    rintro suggestions _ rfl
    exact .announce (.done rfl)
  · exact .done rfl

theorem alike_decideOnline :
    ((⟨policy, notifier⟩ : TicketService).decideOnline u r).Alike id
      ((⟨policy, notifier'⟩ : TicketService).decideOnline u' r) := by
  rw [decideOnline_eq, decideOnline_eq]
  refine Plan.alike_lookupMany_bind (fun offline => ?_) _ _
  unfold sell
  dsimp only
  split
  · exact .log (.done rfl)
  · exact Plan.alike_lookupOne_bind (fun online => .done rfl) _ _

end TicketService

/-! ## The application -/

namespace Http

/-- What a response shows of a request, whatever its identifier. -/
def Response.shown (a : Response) : Nat × String := (a.status, a.body)

namespace App

section Views

variable (view : Response → β) (policy : AvailabilityPolicy) (notifier notifier' : Notifier) (timeout : Nat)
  (u u' : Uuid)

theorem alike_ask {plan plan' : AvailabilityRequest → Plan α}
    (hplan : ∀ r, (plan r).Alike id (plan' r)) (query : Option String) (message : String)
    (toValue : α → Json.Value) :
    (ask query message toValue plan).Alike view (ask query message toValue plan') := by
  unfold ask
  split
  · rfl
  · split
    · rfl
    · refine (hplan _).attempt.bind fun result result' hresult => ?_
      rw [Except.map_id] at hresult
      rw [show result = result' from hresult]

theorem alike_serve (query : Option String) (endpoint : Endpoint) :
    ((⟨⟨policy, notifier⟩, timeout⟩ : App).serve u query endpoint).Alike view
      ((⟨⟨policy, notifier'⟩, timeout⟩ : App).serve u' query endpoint) := by
  cases endpoint with
  | health => rfl
  | listing => exact alike_ask view (TicketService.alike_resolve policy notifier notifier' u u') _ _ _
  | online =>
    exact alike_ask view (TicketService.alike_decideOnline policy notifier notifier' u u') _ _ _

theorem alike_route (r : Request) (endpoint : Endpoint) :
    ((⟨⟨policy, notifier⟩, timeout⟩ : App).route u r endpoint).Alike view
      ((⟨⟨policy, notifier'⟩, timeout⟩ : App).route u' r endpoint) := by
  unfold route
  split
  · exact alike_serve view policy notifier notifier' timeout u u' r.target.query endpoint
  · split
    · refine (alike_serve id policy notifier notifier' timeout u u' r.target.query endpoint).bind ?_
      rintro a _ rfl
      rfl
    · rfl

end Views

variable (policy : AvailabilityPolicy) (notifier notifier' : Notifier) (timeout : Nat) (u u' : Uuid)

/-- Requests are handled alike, whatever their identifiers are. -/
theorem alike_handle (r : Request) :
    ((⟨⟨policy, notifier⟩, timeout⟩ : App).handle u r).Alike Response.shown
      ((⟨⟨policy, notifier'⟩, timeout⟩ : App).handle u' r) := by
  unfold handle
  dsimp only
  split
  · exact alike_route ..
  · refine (alike_route id ..).bind ?_
    rintro a _ rfl
    exact Plan.alike_pure rfl
  · exact Plan.alike_pure rfl

end App

end Http

end BoxOffice
