import BoxOffice.Proofs.Service.Calls
import BoxOffice.Proofs.Service.Message
import BoxOffice.Proofs.Service.Stages

/-!
# What a request asks, and what it announces

1. `Follows next` says of calls that each query is the one that `next` gives for the lists found so far, and
   that the calls end where `next` gives none, or at the first one without data.
2. A run that asks as `next` says succeeds if and only if all its calls find data (`Plan.Asks`).
   Lookups pass this on from what comes after them (`asks_lookupMany_bind`).
3. `resolve` asks as `resolveInquiry` says, and publishes one message if it succeeds with an
   exhausted list and none otherwise.
-/

namespace BoxOffice

variable {σ π α β : Type}

/-! ## Calls in an order -/

/-- Each query is the one that `next` gives for the lists found so far. The calls end where it gives none, or
at the first one without data. -/
inductive Follows : (List (List TicketRecord) → Option TicketQuery) → List Call → Prop
  | finished {next : List (List TicketRecord) → Option TicketQuery} :
      next [] = none → Follows next []
  | cut {next : List (List TicketRecord) → Option TicketQuery} {c : Call} :
      next [] = some c.query → c.data? = none → Follows next [c]
  | more {next : List (List TicketRecord) → Option TicketQuery} {c : Call}
      {data : List TicketRecord} {rest : List Call} :
      next [] = some c.query → c.data? = some data →
      Follows (fun found => next (data :: found)) rest → Follows next (c :: rest)

section Follows

variable {next : List (List TicketRecord) → Option TicketQuery} {calls rest : List Call}
  {c : Call} {q : TicketQuery} {data : List TicketRecord}

/-- What is to be asked first is asked. -/
theorem Follows.exists_cons (h : Follows next calls) (hq : next [] = some q) :
    ∃ c rest, calls = c :: rest ∧ c.query = q := by
  cases h with
  | finished hnone =>
    rw [hq] at hnone
    cases hnone
  | cut hc hdata => exact ⟨_, [], rfl, Option.some.inj (hc.symm.trans hq)⟩
  | more hc hdata hrest => exact ⟨_, _, rfl, Option.some.inj (hc.symm.trans hq)⟩

/-- After data the rest follows what is left. -/
theorem Follows.tail (h : Follows next (c :: rest)) (hc : c.data? = some data) :
    Follows (fun found => next (data :: found)) rest := by
  cases h with
  | cut hq hnone =>
    rw [hc] at hnone
    cases hnone
  | more hq hdata hrest =>
    cases hc.symm.trans hdata
    exact hrest

end Follows

/-! ## Plans that ask in an order -/

/-- Run at a time with a store, the plan makes these calls; they follow `next`, and the plan succeeds
if and only if all of them find data. -/
structure Plan.Asks (p : Plan α) (s : TicketStore σ) (deadline : Option Nat) (time : Nat)
    (state : σ) (next : List (List TicketRecord) → Option TicketQuery) (calls : List Call) :
    Prop extends p.Makes s deadline time state calls where
  follows : Follows next calls
  succeeds_iff : (∃ a, (p.run s deadline time state).result = .ok a) ↔ ∀ c ∈ calls, c.data? ≠ none

section Asks

variable {s : TicketStore σ} {deadline : Option Nat} {time : Nat} {state : σ}
  {next : List (List TicketRecord) → Option TicketQuery}

theorem asks_pure (a : α) (h : next [] = none) :
    (pure a : Plan α).Asks s deadline time state next [] where
  made := .nil time state
  calls_eq := rfl
  follows := .finished h
  succeeds_iff := by simp

theorem asks_note_bind {spans : List Span} {e : LogEvent} {f : Unit → Plan α} {calls : List Call}
    (h : (f ()).Asks s deadline time state next calls) :
    (Plan.note spans e >>= f).Asks s deadline time state next calls where
  made := h.made
  calls_eq := h.calls_eq
  follows := h.follows
  succeeds_iff := h.succeeds_iff

/-- What a plan asks does not depend on what is made of its result without asking. -/
theorem asks_bind_of_silent {p : Plan α} {f : α → Plan β} {calls : List Call}
    (h : p.Asks s deadline time state next calls)
    (hf : ∀ a time state, ((f a).run s deadline time state).calls = [] ∧
      ∃ b, ((f a).run s deadline time state).result = .ok b) :
    (p >>= f).Asks s deadline time state next calls := by
  have hrun := p.run_bind s deadline f time state
  have hsucc := h.succeeds_iff
  refine ⟨⟨h.made, ?_⟩, h.follows, ?_⟩
  · rw [hrun, ← h.calls_eq]
    unfold Run.andThen
    cases (p.run s deadline time state).result with
    | ok a => simp [(hf a _ _).1]
    | error e => rfl
  · rw [hrun, ← hsucc]
    unfold Run.andThen
    cases (p.run s deadline time state).result with
    | ok a => simpa using (hf a _ _).2
    | error e => simp

/-- A lookup asks its query, and what follows is asked only if the answer is data. -/
theorem asks_lookupMany_bind {spans : List Span} {absent : String} {q : TicketQuery}
    {f : List TicketRecord → Plan α} (hq : next [] = some q)
    (hf : ∀ data time state, ∃ calls,
      (f data).Asks s deadline time state (fun found => next (data :: found)) calls) :
    ∃ calls, (Plan.lookupMany spans absent q >>= f).Asks s deadline time state next
      (⟨q, (s.many state q).2.ending id deadline time⟩ :: calls) := by
  have hrun := (Plan.lookupMany spans absent q).run_bind s deadline f time state
  rw [Plan.run_lookupMany] at hrun
  unfold Run.andThen at hrun
  dsimp only at hrun
  obtain ⟨data, houtcome, hending⟩ | ⟨e, hsettle, hfails⟩ :=
    (s.many state q).2.ending_cases id deadline time q absent
  · obtain ⟨calls, h⟩ := hf data ((s.many state q).2.arrive deadline time q.operation).time
      (s.many state q).1
    have hdata : Call.data? ⟨q, (s.many state q).2.ending id deadline time⟩ = some data :=
      Call.data?_eq_some_iff.2 hending
    rw [Plan.settle_eq_ok_iff.2 houtcome] at hrun
    refine ⟨calls, ⟨.many h.made, ?_⟩, .more hq hdata h.follows, ?_⟩
    · rw [hrun]
      exact congrArg (List.cons q) h.calls_eq
    · rw [hrun]
      simpa [hdata] using h.succeeds_iff
  · have hnone := hfails.data?_eq_none
    rw [hsettle] at hrun
    refine ⟨[], ⟨.many (.nil _ _), ?_⟩, .cut hq hnone, ?_⟩
    · rw [hrun]
      rfl
    · rw [hrun]
      simp [hnone]

end Asks

/-! ## The order of a request -/

/-- The cheapest record of the tag, then the records of its country with the tag. -/
def suggestInquiry (tag : Tag) : List (List TicketRecord) → Option TicketQuery
  | [] => some (.cheapestAvailableByTag tag)
  | [cheapest] =>
    cheapest.head?.map fun winner => .offlineByCountryTag winner.country.code tag
  | _ => none

/-- The offline records of the request; if they are exhausted, the suggestions for the tag of the
last. -/
def resolveInquiry (r : AvailabilityRequest) : List (List TicketRecord) → Option TicketQuery
  | [] => some (.offlineByCountryEvent r.countryCode r.eventId)
  | offline :: found =>
    if Exhausted offline then offline.getLast?.bind fun last => suggestInquiry last.tag found
    else none

/-- The outcome of the first lookup of a request. -/
def firstOutcome (s : TicketStore σ) (deadline : Option Nat) (time : Nat) (state : σ)
    (r : AvailabilityRequest) : StoreResult (Option (List TicketRecord)) :=
  let q := TicketQuery.offlineByCountryEvent r.countryCode r.eventId
  ((s.many state q).2.arrive deadline time q.operation).outcome

/-- The first call of a request. -/
def firstCall (s : TicketStore σ) (deadline : Option Nat) (time : Nat) (state : σ)
    (r : AvailabilityRequest) : Call :=
  let q := TicketQuery.offlineByCountryEvent r.countryCode r.eventId
  ⟨q, (s.many state q).2.ending id deadline time⟩

section Order

variable (s : TicketStore σ) (deadline : Option Nat) (time : Nat) (state : σ)

theorem data?_firstCall_eq_some_iff {r : AvailabilityRequest} {offline : List TicketRecord} :
    (firstCall s deadline time state r).data? = some offline ↔
      firstOutcome s deadline time state r = .ok (some offline) := by
  have hfound := Reply.ending_eq_found_iff id deadline time
    (TicketQuery.offlineByCountryEvent r.countryCode r.eventId).operation
    (s.many state (.offlineByCountryEvent r.countryCode r.eventId)).2 offline
  simp only [id, exists_eq_right] at hfound
  rw [Call.data?_eq_some_iff]
  exact hfound

theorem asks_suggest (service : TicketService) (outer : List Span) (id : Uuid) (tag : Tag) :
    ∃ calls, (service.suggest outer id tag).Asks s deadline time state (suggestInquiry tag) calls := by
  rw [TicketService.suggest_eq]
  refine ⟨_, (asks_lookupMany_bind rfl fun cheapest time state => ?_).choose_spec⟩
  cases cheapest with
  | nil => exact ⟨[], asks_note_bind (asks_pure [] rfl)⟩
  | cons winner others =>
    exact ⟨_, (asks_lookupMany_bind rfl fun _ _ _ => ⟨[], asks_pure _ rfl⟩).choose_spec⟩

theorem asks_complete (topic : String) (id : Uuid) (r : AvailabilityRequest)
    (offline : List TicketRecord) :
    ∃ calls, ((TicketService.withTopic topic).complete id r offline).Asks s deadline time state
      (fun found => resolveInquiry r (offline :: found)) calls := by
  by_cases h : Exhausted offline
  · obtain ⟨last, hl⟩ := h.exists_last
    have hnext : (fun found => resolveInquiry r (offline :: found)) = suggestInquiry last.tag := by
      funext found
      simp [resolveInquiry, h, hl]
    rw [TicketService.complete_of_exhausted topic id r h hl, hnext]
    obtain ⟨calls, hs⟩ := asks_suggest s deadline time state (TicketService.withTopic topic)
      [TicketService.requestSpan "resolve" id r] id last.tag
    exact ⟨calls, asks_note_bind (asks_bind_of_silent hs fun _ _ _ => ⟨rfl, _, rfl⟩)⟩
  · rw [TicketService.complete_of_not_exhausted topic id r h]
    exact ⟨[], asks_pure _ (by simp [resolveInquiry, h])⟩

theorem asks_resolve (topic : String) (id : Uuid) (r : AvailabilityRequest) :
    ∃ calls, ((TicketService.withTopic topic).resolve id r).Asks s deadline time state
      (resolveInquiry r) (firstCall s deadline time state r :: calls) :=
  asks_lookupMany_bind rfl fun offline time state => asks_complete s deadline time state topic id r offline

/-! ## Announcements -/

variable {s deadline time state}

theorem announcements_bind_eq_nil {p : Plan α} {f : α → Plan β}
    (hp : (p.run s deadline time state).announcements = [])
    (hf : ∀ a time state, ((f a).run s deadline time state).announcements = []) :
    ((p >>= f).run s deadline time state).announcements = [] := by
  rw [p.run_bind]
  unfold Run.andThen
  cases (p.run s deadline time state).result with
  | ok a => simp [hp, hf]
  | error e => exact hp

theorem announcements_lookupMany (spans : List Span) (absent : String) (q : TicketQuery) :
    ((Plan.lookupMany spans absent q).run s deadline time state).announcements = [] := by
  rw [Plan.run_lookupMany]

theorem announcements_suggest (service : TicketService) (outer : List Span) (id : Uuid) (tag : Tag) :
    ((service.suggest outer id tag).run s deadline time state).announcements = [] := by
  rw [TicketService.suggest_eq]
  refine announcements_bind_eq_nil (announcements_lookupMany ..) fun cheapest time state => ?_
  cases cheapest with
  | nil => rfl
  | cons winner others =>
    exact announcements_bind_eq_nil (announcements_lookupMany ..) fun _ _ _ => rfl

variable {topic : String} {id : Uuid} {r : AvailabilityRequest} {offline : List TicketRecord}
  {last : TicketRecord}

theorem announcements_complete_of_not_exhausted (h : ¬ Exhausted offline) :
    (((TicketService.withTopic topic).complete id r offline).run s deadline time
      state).announcements = [] := by
  rw [TicketService.complete_of_not_exhausted topic id r h]
  rfl

/-- With an exhausted list a request ends as the search for suggestions does. -/
theorem result_complete_of_exhausted (h : Exhausted offline) (hl : offline.getLast? = some last) :
    (((TicketService.withTopic topic).complete id r offline).run s deadline time state).result =
      (((TicketService.withTopic topic).suggest [TicketService.requestSpan "resolve" id r] id
        last.tag).run s deadline time state).result.map
          fun views => ⟨offline.map .ofRecord, views⟩ := by
  rw [TicketService.complete_of_exhausted topic id r h hl, Plan.run_bind, Plan.run_note]
  simp only [Run.andThen, Plan.run_bind, Plan.run_notify, Plan.run_pure]
  cases ((TicketService.withTopic topic).suggest [TicketService.requestSpan "resolve" id r] id
    last.tag |>.run s deadline time state).result <;> rfl

/-- With an exhausted list the notification is announced at the very end, once nothing can fail any
more. -/
theorem announcements_complete_of_exhausted (h : Exhausted offline)
    (hl : offline.getLast? = some last) :
    (((TicketService.withTopic topic).complete id r offline).run s deadline time
        state).announcements.map Announcement.notification =
      if (((TicketService.withTopic topic).complete id r offline).run s deadline time
        state).result.isOk then [⟨last.tag, r.countryCode⟩] else [] := by
  have hs : ∀ time state, (((TicketService.withTopic topic).suggest
      [TicketService.requestSpan "resolve" id r] id last.tag).run s deadline time
        state).announcements = [] := fun time state => announcements_suggest ..
  rw [TicketService.complete_of_exhausted topic id r h hl, Plan.run_bind, Plan.run_note]
  simp only [Run.andThen, List.nil_append, Plan.run_bind, Plan.run_notify, Plan.run_pure]
  cases ((TicketService.withTopic topic).suggest [TicketService.requestSpan "resolve" id r] id
    last.tag |>.run s deadline time state).result with
  | ok suggestions => simp [hs, Except.isOk, Except.toBool]
  | error e => simp [hs, Except.isOk, Except.toBool]

/-- With data a request goes on with them. -/
theorem run_resolve_of_data (service : TicketService) (id : Uuid)
    (h : firstOutcome s deadline time state r = .ok (some offline)) :
    ∃ events time', (service.resolve id r).run s deadline time state =
      ((service.complete id r offline).run s deadline time'
        (s.many state (.offlineByCountryEvent r.countryCode r.eventId)).1).after
          (.offlineByCountryEvent r.countryCode r.eventId) events := by
  obtain ⟨events, hrun⟩ := Plan.run_lookupMany_bind_of_data h
  rw [TicketService.resolve_eq]
  exact ⟨events, _, hrun⟩

/-- Without data a request ends with its first lookup, and announces nothing. -/
theorem announcements_resolve_of_no_data {service : TicketService}
    (h : ∀ offline, firstOutcome s deadline time state r ≠ .ok (some offline)) :
    ((service.resolve id r).run s deadline time state).announcements = [] := by
  obtain ⟨e, hsettle⟩ := Plan.exists_settle_eq_error "ticket not found" h
  obtain ⟨events, hrun⟩ := Plan.run_lookupMany_bind_of_error hsettle
  rw [TicketService.resolve_eq, hrun]

/-- A request that succeeds with an exhausted list announces the tag of the last record and its own
country. -/
theorem notifications_resolve_of_ok {listing : TicketListing}
    (hdata : firstOutcome s deadline time state r = .ok (some offline)) (h : Exhausted offline)
    (hl : offline.getLast? = some last)
    (hok : (((TicketService.withTopic topic).resolve id r).run s deadline time state).result =
      .ok listing) :
    (((TicketService.withTopic topic).resolve id r).run s deadline time
      state).announcements.map Announcement.notification = [⟨last.tag, r.countryCode⟩] := by
  obtain ⟨events, time', hrun⟩ := run_resolve_of_data (.withTopic topic) id hdata
  rw [hrun] at hok ⊢
  simp only [Run.after] at hok ⊢
  rw [announcements_complete_of_exhausted h hl, hok]
  rfl

/-- A request that fails, or whose list is not exhausted, announces nothing. -/
theorem announcements_resolve_eq_nil
    (h : (∀ listing, (((TicketService.withTopic topic).resolve id r).run s deadline time
        state).result ≠ .ok listing) ∨
      ∀ offline, firstOutcome s deadline time state r = .ok (some offline) → ¬ Exhausted offline) :
    (((TicketService.withTopic topic).resolve id r).run s deadline time state).announcements = [] := by
  by_cases hnone : ∀ offline, firstOutcome s deadline time state r ≠ .ok (some offline)
  · exact announcements_resolve_of_no_data hnone
  push Not at hnone
  obtain ⟨offline, hdata⟩ := hnone
  obtain ⟨events, time', hrun⟩ := run_resolve_of_data (.withTopic topic) id hdata
  rw [hrun] at h ⊢
  simp only [Run.after] at h ⊢
  by_cases hex : Exhausted offline
  · obtain ⟨last, hl⟩ := hex.exists_last
    have hfail := h.resolve_right fun hnot => hnot offline hdata hex
    rw [← List.map_eq_nil_iff, announcements_complete_of_exhausted hex hl]
    cases hres : (((TicketService.withTopic topic).complete id r offline).run s deadline time'
        (s.many state (.offlineByCountryEvent r.countryCode r.eventId)).1).result with
    | ok listing => exact absurd hres (hfail listing)
    | error e => rfl
  · exact announcements_complete_of_not_exhausted hex

end Order

/-- Whatever the store answers and whatever the publisher does, `resolve` asks as `resolveInquiry`
says and succeeds if and only if all its calls find data. If it succeeds and the first list is exhausted,
it publishes one message, which carries the tag of the last record and the country of the request.
Otherwise it publishes nothing. -/
theorem resolve_asks_and_publishes (topic : String) (store : TicketStore σ) (publisher : Publisher π)
    (deadline : Option Nat) (state : σ) (begin : π) (id : Uuid) (r : AvailabilityRequest) :
    let service := TicketService.withTopic topic
    let p := service.perform store publisher deadline (state, begin) (service.resolve id r)
    ∃ calls, Made store deadline 0 state calls ∧ p.calls = calls.map Call.query ∧
      Follows (resolveInquiry r) calls ∧
      ((∃ listing, p.result = .ok listing) ↔ ∀ c ∈ calls, c.data? ≠ none) ∧
      (∀ offline last listing, calls.head?.bind Call.data? = some offline → Exhausted offline →
        offline.getLast? = some last → p.result = .ok listing →
        let notice : SwitchNotification := ⟨last.tag, r.countryCode⟩
        let message : Message := ⟨topic, notice.payload⟩
        message.Carries topic notice ∧ p.published = [message] ∧
          p.publisher = (publisher.publish begin message).1) ∧
      ((∀ listing, p.result ≠ .ok listing) ∨
          (∀ offline, calls.head?.bind Call.data? = some offline → ¬ Exhausted offline) →
        p.published = [] ∧ p.publisher = begin) := by
  intro service p
  have hpub : p.publisher = p.published.foldl (fun state m => (publisher.publish state m).1) begin :=
    perform_publisher service store publisher deadline (state, begin) (service.resolve id r)
  have hpublished : p.published = (((service.resolve id r).run store deadline 0
      state).announcements.map Announcement.notification).map service.notifier.message :=
    perform_published service store publisher deadline (state, begin) (service.resolve id r)
  obtain ⟨calls, h⟩ := asks_resolve store deadline 0 state topic id r
  have hfirst : ∀ offline, (firstCall store deadline 0 state r).data? = some offline ↔
      firstOutcome store deadline 0 state r = .ok (some offline) :=
    fun offline => data?_firstCall_eq_some_iff store deadline 0 state
  refine ⟨_, h.made, h.calls_eq, h.follows, h.succeeds_iff, ?_, ?_⟩
  · intro offline last listing hdata hex hl hok notice message
    have hmessages : p.published = [message] := by
      rw [hpublished, notifications_resolve_of_ok ((hfirst offline).1 hdata) hex hl hok]
      rfl
    exact ⟨carries_message service.notifier notice, hmessages, by rw [hpub, hmessages]; rfl⟩
  · intro hnone
    have hmessages : p.published = [] := by
      rw [hpublished, announcements_resolve_eq_nil (hnone.imp_right fun hnot offline hdata =>
        hnot offline ((hfirst offline).2 hdata))]
      rfl
    exact ⟨hmessages, by rw [hpub, hmessages]; rfl⟩

end BoxOffice
