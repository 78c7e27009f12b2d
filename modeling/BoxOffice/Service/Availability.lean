import BoxOffice.Service.Notifier
import BoxOffice.Ticket.Request
import BoxOffice.Ticket.View
import BoxOffice.Uuid

/-!
# Availability of tickets

The three things that are asked about tickets, as plans.

1. `suggest` looks for the country with the cheapest ticket of a tag, and lists its tickets of the tag at a
   discount.
2. `resolve` lists the offline tickets of an event in a country. If they are exhausted, it adds suggestions for
   the tag of the last ticket, and announces that the country switches to online sale.
3. `decideOnline` gives the online ticket, once no offline ticket is available.

Each begins with a lookup; what follows it is a plan of its own, made from the records that were found
(`alternatives`, `complete`, `sell`).

`TicketService.perform` runs a plan and then sends what it announced.
-/

namespace BoxOffice

open BoxOffice.Text

/-- The rules of availability, and the notifier. -/
structure TicketService where
  policy : AvailabilityPolicy
  notifier : Notifier
  deriving Repr, DecidableEq

namespace TicketService

/-- The service with the standard rules that notifies for a topic. -/
def withTopic (topic : String) : TicketService := ⟨.standard, ⟨topic⟩⟩

/-! ## Spans -/

/-- The span of a task about an event in a country. -/
def requestSpan (task : String) (id : Uuid) (r : AvailabilityRequest) : Span :=
  ⟨task,
    [("request_id", id.text), ("country_code", r.countryCode.text), ("event_id", r.eventId.text)]⟩

/-- The span of a search for suggestions. -/
def suggestSpan (id : Uuid) (tag : Tag) : Span :=
  ⟨"suggest", [("request_id", id.text), ("tag", tag.text)]⟩

/-! ## Plans -/

/-- The tickets of the winner's country with the tag, at a discount, if there is a winner. -/
def alternatives (s : TicketService) (outer : List Span) (id : Uuid) (tag : Tag) :
    List TicketRecord → Plan (List SuggestionView)
  | [] => do
    Plan.note (outer ++ [suggestSpan id tag]) (.of .debug "no available alternative" [])
    return []
  | winner :: _ => do
    let alternatives ← Plan.lookupMany (outer ++ [suggestSpan id tag]) "ticket not found"
      (.offlineByCountryTag winner.country.code tag)
    return alternatives.map (SuggestionView.ofRecord s.policy)

/-- Tickets of a tag at a discount, from the country with the cheapest one that is left. -/
def suggest (s : TicketService) (outer : List Span) (id : Uuid) (tag : Tag) :
    Plan (List SuggestionView) := do
  let cheapest ← Plan.lookupMany (outer ++ [suggestSpan id tag]) "ticket not found"
    (.cheapestAvailableByTag tag)
  s.alternatives outer id tag cheapest

/-- The listing of the offline tickets of a request, with suggestions if they are exhausted. -/
def complete (s : TicketService) (id : Uuid) (r : AvailabilityRequest)
    (offline : List TicketRecord) : Plan TicketListing := do
  let spans := [requestSpan "resolve" id r]
  let assessment := s.policy.assess offline
  let tickets := offline.map TicketView.ofRecord
  match assessment.isExhausted, assessment.lastTag with
  | true, some tag => do
    Plan.note spans (.of .info "offline stock exhausted"
      [("sold_out", intText assessment.soldOut), ("tag", tag.text)])
    let suggestions ← s.suggest spans id tag
    Plan.notify spans ⟨tag, r.countryCode⟩
    return ⟨tickets, suggestions⟩
  | _, _ => return ⟨tickets, []⟩

/-- The offline tickets of an event in a country, with suggestions if they are exhausted. -/
def resolve (s : TicketService) (id : Uuid) (r : AvailabilityRequest) : Plan TicketListing := do
  let offline ← Plan.lookupMany [requestSpan "resolve" id r] "ticket not found"
    (.offlineByCountryEvent r.countryCode r.eventId)
  s.complete id r offline

/-- The online ticket of a request, unless one of its offline tickets is available. -/
def sell (s : TicketService) (id : Uuid) (r : AvailabilityRequest) (offline : List TicketRecord) :
    Plan TicketView := do
  let spans := [requestSpan "decide_online" id r]
  let assessment := s.policy.assess offline
  match assessment.onlineEligibility with
  | .offlineAvailable => do
    Plan.note spans (.of .info "online sale refused"
      [("total", intText assessment.total), ("sold_out", intText assessment.soldOut)])
    Plan.fail (.conflict "Offline ticket still available")
  | .onlineEligible => do
    let online ← Plan.lookupOne spans "ticket not found"
      (.onlineByCountryEvent r.countryCode r.eventId)
    return .ofRecord online

/-- The online ticket of an event in a country, unless an offline ticket is available. -/
def decideOnline (s : TicketService) (id : Uuid) (r : AvailabilityRequest) : Plan TicketView := do
  let offline ← Plan.lookupMany [requestSpan "decide_online" id r] "offline ticket not found"
    (.offlineByCountryEvent r.countryCode r.eventId)
  s.sell id r offline

end TicketService

/-! ## Performing a plan -/

/-- What came of a plan and of what it announced. -/
structure Performance (σ π α : Type) where
  result : Except TicketError α
  store : σ
  publisher : π
  calls : List TicketQuery
  published : List Message
  events : List LogEvent
  time : Nat

/-- Runs a plan, with a deadline counted from its start, then sends what it announced. -/
def TicketService.perform {σ π α : Type} (s : TicketService) (store : TicketStore σ)
    (publisher : Publisher π) (deadline : Option Nat) (state : σ × π) (plan : Plan α) :
    Performance σ π α :=
  let run := plan.run store deadline 0 state.1
  let sent := s.notifier.sendAll publisher state.2 run.announcements
  { result := run.result
    store := run.store
    publisher := sent.1
    calls := run.calls
    published := run.announcements.map fun a => s.notifier.message a.notification
    events := run.events ++ sent.2
    time := run.time }

end BoxOffice
