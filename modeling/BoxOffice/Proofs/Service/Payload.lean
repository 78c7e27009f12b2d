import BoxOffice.Proofs.Service.Inquiry

/-!
# What a consumer reads

A message says that the tickets of a tag are exhausted in a country. Whoever decodes its payload has the tag that
the request went on to look for, and the country that it was about.

1. A request looks for suggestions before it announces anything, and announces the tag that it looked for
   (`announced_by_complete`).
2. The tag is that of the last record of its first answer (`announced_by_resolve`).
3. The messages that a request publishes carry what it announced (`wire_types_read_back`).
-/

namespace BoxOffice

variable {σ π : Type}

/-- The tag of a request: that of the last record of the first answer, for which the request goes on to look for
suggestions. -/
structure TagOf (r : AvailabilityRequest) (first : StoreResult (Option (List TicketRecord)))
    (calls : List TicketQuery) (tag : Tag) : Prop where
  last : ∃ offline last, first = .ok (some offline) ∧ offline.getLast? = some last ∧ tag = last.tag
  lookedFor : ∃ rest, calls = .offlineByCountryEvent r.countryCode r.eventId :: .cheapestAvailableByTag tag :: rest

/-! ## Announcements -/

section Announced

variable {store : TicketStore σ} {deadline : Option Nat} {time : Nat} {state : σ} {s : TicketService} {id : Uuid}
  {r : AvailabilityRequest} {a : Announcement}

/-- The search for suggestions asks for the cheapest record of the tag first. -/
theorem exists_calls_suggest (spans : List Span) (tag : Tag) :
    ∃ rest, ((s.suggest spans id tag).run store deadline time state).calls = .cheapestAvailableByTag tag :: rest := by
  obtain ⟨calls, h⟩ := asks_suggest store deadline time state s spans id tag
  obtain ⟨c, rest, rfl, hc⟩ := h.follows.exists_cons rfl
  exact ⟨rest.map Call.query, by rw [h.calls_eq, List.map_cons, hc]⟩

/-- What is announced with the offline records is the tag of the last of them, for which suggestions were looked
for before. -/
theorem announced_by_complete {offline : List TicketRecord}
    (ha : a ∈ ((s.complete id r offline).run store deadline time state).announcements) :
    ∃ last rest, offline.getLast? = some last ∧ a.notification = ⟨last.tag, r.countryCode⟩ ∧
      ((s.complete id r offline).run store deadline time state).calls =
        .cheapestAvailableByTag last.tag :: rest := by
  obtain hcomplete | ⟨last, hlast, hcomplete⟩ := s.complete_cases id r offline
  · rw [hcomplete] at ha
    cases ha
  · rw [hcomplete, Plan.run_bind, Plan.run_note] at ha ⊢
    simp only [Run.andThen, List.nil_append, Plan.run_bind, Plan.run_notify, Plan.run_pure] at ha ⊢
    have hsilent : ((s.suggest [TicketService.requestSpan "resolve" id r] id last.tag).run store deadline time
        state).announcements = [] := announcements_suggest s _ id last.tag
    obtain ⟨rest, hcalls⟩ : ∃ rest, ((s.suggest [TicketService.requestSpan "resolve" id r] id last.tag).run store
        deadline time state).calls = .cheapestAvailableByTag last.tag :: rest := exists_calls_suggest _ last.tag
    cases hresult : ((s.suggest [TicketService.requestSpan "resolve" id r] id last.tag).run store deadline time
      state).result with
    | error e =>
      -- The search failed, and nothing was announced before it.
      rw [hresult] at ha
      simp [hsilent] at ha
    | ok suggestions =>
      rw [hresult] at ha
      simp only [hsilent, List.nil_append, List.append_nil, List.mem_singleton] at ha
      refine ⟨last, rest, hlast, congrArg Announcement.notification ha, ?_⟩
      simp only [List.append_nil]
      exact hcalls

/-- What a request announces is its tag and its country. -/
theorem announced_by_resolve (ha : a ∈ ((s.resolve id r).run store deadline time state).announcements) :
    ∃ tag, TagOf r (firstOutcome store deadline time state r) ((s.resolve id r).run store deadline time state).calls
      tag ∧ a.notification = ⟨tag, r.countryCode⟩ := by
  by_cases hnone : ∀ offline, firstOutcome store deadline time state r ≠ .ok (some offline)
  · rw [announcements_resolve_of_no_data hnone] at ha
    cases ha
  push Not at hnone
  obtain ⟨offline, hdata⟩ := hnone
  obtain ⟨events, time', hrun⟩ := run_resolve_of_data s id hdata
  rw [hrun] at ha ⊢
  obtain ⟨last, rest, hlast, hnotification, hcalls⟩ := announced_by_complete ha
  have hlookedFor := congrArg (List.cons (TicketQuery.offlineByCountryEvent r.countryCode r.eventId)) hcalls
  exact ⟨last.tag, ⟨⟨offline, last, hdata, hlast, rfl⟩, rest, hlookedFor⟩, hnotification⟩

end Announced

/-! ## Messages -/

/-- Requests, notifications, views and listings are read back from the texts that are written of them. So the payload
of a notification tells its tag and its country, and whoever decodes the payload of a message that a request
published has the tag and the country of that request. -/
theorem wire_types_read_back :
    ((∀ r : AvailabilityRequest, ReadsBack AvailabilityRequest.toValue AvailabilityRequest.decode r) ∧
      (∀ n : SwitchNotification, ReadsBack SwitchNotification.toValue SwitchNotification.decode n) ∧
      (∀ v : TicketView, ReadsBack TicketView.toValue TicketView.decode v) ∧
      (∀ v : SuggestionView, ReadsBack SuggestionView.toValue SuggestionView.decode v) ∧
      ∀ l : TicketListing, ReadsBack TicketListing.toValue TicketListing.decode l) ∧
    (∀ (notifier : Notifier) (n : SwitchNotification), (notifier.message n).Carries notifier.topic n) ∧
    (∀ n n' : SwitchNotification,
      n.payload = n'.payload ↔ n.tag = n'.tag ∧ n.countryCode = n'.countryCode) ∧
    ∀ (σ π : Type) (s : TicketService) (store : TicketStore σ) (publisher : Publisher π) (deadline : Option Nat)
      (state : σ) (begin : π) (id : Uuid) (r : AvailabilityRequest),
      let p := s.perform store publisher deadline (state, begin) (s.resolve id r)
      ∀ m ∈ p.published, ∃ tag, TagOf r (firstOutcome store deadline 0 state r) p.calls tag ∧
        m.Carries s.notifier.topic ⟨tag, r.countryCode⟩ := by
  refine ⟨⟨AvailabilityRequest.readsBack, SwitchNotification.readsBack, TicketView.readsBack,
    SuggestionView.readsBack, TicketListing.readsBack⟩, carries_message, fun _ _ => payload_eq_iff, ?_⟩
  intro σ π s store publisher deadline state begin id r p m hm
  obtain ⟨a, ha, rfl⟩ := List.mem_map.1 hm
  obtain ⟨tag, htag, hnotification⟩ := announced_by_resolve ha
  refine ⟨tag, htag, ?_⟩
  rw [hnotification]
  exact carries_message s.notifier _

end BoxOffice
