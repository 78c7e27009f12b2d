import BoxOffice.Proofs.Service.Inquiry
import BoxOffice.Proofs.Store.Filter
import BoxOffice.Proofs.Ticket.Document

/-!
# Listings from a store in memory

What a request answers over raw documents, malformed ones included, said of the documents alone.

1. A lookup in memory goes on with the records of its selection, or ends the plan if one of the
   documents selected is no record (`run_lookupMany_bind_of_decodes`,
   `run_lookupMany_bind_of_malformed`).
2. `Suggested ds t answer`: `answer` is what is suggested for the tag `t` among the documents `ds`.
   `Resolved` says the same of a request, together with the notification that is due. Documents are
   listed in the order by price and place.
3. Both relations have an answer for all documents (`exists_suggested`, `exists_resolved`), and the
   answer is what the plan ends in (`Suggested.result_suggest`, `Resolved.run_resolve`).
-/

namespace BoxOffice

open BoxOffice.Json

variable {α π : Type}

/-! ## Lookups in memory -/

/-- What a request fails with if a document that it needs is no record. -/
def unreadable : TicketError := .internal "cannot parse ticket data"

/-- An answer that comes at once is in time, whatever the deadline. -/
theorem arrive_now (deadline : Option Nat) (time : Nat) (operation : String)
    (outcome : StoreResult (Option α)) :
    (Reply.now outcome).arrive deadline time operation = ⟨outcome, [], time⟩ := by
  unfold Reply.arrive Reply.now
  cases deadline <;> simp

section Lookups

variable {spans : List Span} {absent : String} {q : TicketQuery} {f : List TicketRecord → Plan α}
  {deadline : Option Nat} {time : Nat} {ds : List Value}

theorem run_lookupMany_bind_of_decodes {rs : List TicketRecord} (h : Decodes (q.select ds) rs) :
    (Plan.lookupMany spans absent q >>= f).run MemoryStore.store deadline time ⟨ds⟩ =
      ((f rs).run MemoryStore.store deadline time ⟨ds⟩).after q [] := by
  have hfind : (⟨ds⟩ : MemoryStore).findMany q = .ok (some rs) :=
    MemoryStore.findMany_eq_ok_iff.2 ⟨rs, h, rfl⟩
  rw [Plan.run_bind, Plan.run_lookupMany]
  simp only [MemoryStore.store, arrive_now, hfind]
  rfl

theorem run_lookupMany_bind_of_malformed {d : Value} (hd : d ∈ q.select ds) (hm : Malformed d) :
    ∃ events, (Plan.lookupMany spans absent q >>= f).run MemoryStore.store deadline time ⟨ds⟩ =
      ⟨.error unreadable, ⟨ds⟩, [q], [], events, time⟩ := by
  rw [Plan.run_bind, Plan.run_lookupMany]
  simp only [MemoryStore.store, arrive_now]
  cases hfind : (⟨ds⟩ : MemoryStore).findMany q with
  | ok data =>
    obtain ⟨rs, hrs, -⟩ := MemoryStore.findMany_eq_ok_iff.1 hfind
    exact absurd hm (hrs.not_malformed hd)
  | error x =>
    obtain ⟨_, _, _, _, _, _, _, _, rfl⟩ := MemoryStore.findMany_eq_error_iff.1 hfind
    exact ⟨_, rfl⟩

end Lookups

/-! ## Suggestions -/

/-- What is suggested for a tag. The cheapest document that has stock decides on the country; the
suggestions are the offline documents of the country with the tag, sold out or not. -/
inductive Suggested (ds : List Value) (t : Tag) : Except TicketError (List SuggestionView) → Prop
  | nowhere : Arranged (StockedWith t) PriceBefore ds [] → Suggested ds t (.ok [])
  | malformedWinner {w : Value} {others : List Value} :
      Arranged (StockedWith t) PriceBefore ds (w :: others) → Malformed w →
      Suggested ds t (.error unreadable)
  | malformedAlternative {w d : Value} {others alternatives : List Value} {winner : TicketRecord} :
      Arranged (StockedWith t) PriceBefore ds (w :: others) → TicketRecord.ofValue w = .ok winner →
      Arranged (TaggedIn winner.country.code t) PriceBefore ds alternatives →
      d ∈ alternatives → Malformed d → Suggested ds t (.error unreadable)
  | alternatives {w : Value} {others alternatives : List Value} {winner : TicketRecord}
      {rs : List TicketRecord} :
      Arranged (StockedWith t) PriceBefore ds (w :: others) → TicketRecord.ofValue w = .ok winner →
      Arranged (TaggedIn winner.country.code t) PriceBefore ds alternatives →
      Decodes alternatives rs → Suggested ds t (.ok (rs.map (SuggestionView.ofRecord .standard)))

theorem exists_suggested (ds : List Value) (t : Tag) : ∃ answer, Suggested ds t answer := by
  obtain ⟨stocked, hstocked, -⟩ := arranged_cheapestAvailableByTag ds t
  cases stocked with
  | nil => exact ⟨_, .nowhere hstocked⟩
  | cons w others =>
    rcases hw : TicketRecord.ofValue w with e | winner
    · exact ⟨_, .malformedWinner hstocked (malformed_iff.2 ⟨e, hw⟩)⟩
    · have halt := arranged_offlineByCountryTag ds winner.country.code t
      obtain ⟨rs, hrs⟩ | ⟨d, hd, hm⟩ := decodes_or_exists_malformed
        ((TicketQuery.offlineByCountryTag winner.country.code t).select ds)
      · exact ⟨_, .alternatives hstocked hw halt hrs⟩
      · exact ⟨_, .malformedAlternative hstocked hw halt hd hm⟩

section Suggest

variable {ds : List Value} {t : Tag}

theorem decodes_select_cheapest {w : Value} {others : List Value} {winner : TicketRecord}
    (hw : Arranged (StockedWith t) PriceBefore ds (w :: others))
    (hok : TicketRecord.ofValue w = .ok winner) :
    Decodes ((TicketQuery.cheapestAvailableByTag t).select ds) [winner] := by
  rw [hw.select_cheapest]
  exact .cons hok .nil

/-- `suggest` ends in what is suggested. -/
theorem Suggested.result_suggest {answer : Except TicketError (List SuggestionView)}
    (h : Suggested ds t answer) (topic : String) (outer : List Span) (id : Uuid)
    (deadline : Option Nat) (time : Nat) :
    (((TicketService.withTopic topic).suggest outer id t).run MemoryStore.store deadline time
      ⟨ds⟩).result = answer := by
  rw [TicketService.suggest_eq]
  cases h with
  | nowhere hnone =>
    have hdec : Decodes ((TicketQuery.cheapestAvailableByTag t).select ds) [] := by
      rw [hnone.select_cheapest]
      exact .nil
    rw [run_lookupMany_bind_of_decodes hdec]
    rfl
  | @malformedWinner w others hw hm =>
    have hsel : w ∈ (TicketQuery.cheapestAvailableByTag t).select ds := by
      rw [hw.select_cheapest]
      exact List.mem_singleton_self _
    obtain ⟨events, hrun⟩ := run_lookupMany_bind_of_malformed hsel hm
    rw [hrun]
  | malformedAlternative hw hok halt hd hm =>
    rw [halt.unique (arranged_offlineByCountryTag ds _ t)] at hd
    rw [run_lookupMany_bind_of_decodes (decodes_select_cheapest hw hok)]
    obtain ⟨events, hrun⟩ := run_lookupMany_bind_of_malformed hd hm
    exact congrArg Run.result hrun
  | alternatives hw hok halt hrs =>
    rw [halt.unique (arranged_offlineByCountryTag ds _ t)] at hrs
    rw [run_lookupMany_bind_of_decodes (decodes_select_cheapest hw hok)]
    exact congrArg Run.result (run_lookupMany_bind_of_decodes hrs)

/-- What `suggest` ends in is suggested: some answer is, and it ends in that. -/
theorem suggested_of_result {answer : Except TicketError (List SuggestionView)} {topic : String}
    {outer : List Span} {id : Uuid} {deadline : Option Nat} {time : Nat}
    (h : (((TicketService.withTopic topic).suggest outer id t).run MemoryStore.store deadline time
      ⟨ds⟩).result = answer) : Suggested ds t answer := by
  obtain ⟨answer', hs⟩ := exists_suggested ds t
  rw [hs.result_suggest topic outer id deadline time] at h
  exact h ▸ hs

end Suggest

/-! ## Requests -/

/-- How many of the documents have no ticket left. -/
def soldOutAmong (ds : List Value) : Nat := ds.countP fun d => remainingAt? d = some 0

/-- Documents and their records are sold out alike. -/
theorem Decodes.soldOutCount_eq {ds : List Value} {rs : List TicketRecord} (h : Decodes ds rs) :
    soldOutCount rs = soldOutAmong ds := by
  unfold soldOutCount soldOutAmong
  induction h with
  | nil => rfl
  | cons hd _ ih =>
    rw [List.countP_cons, List.countP_cons, ih, remainingAt?_of_ofValue hd]
    simp

theorem Decodes.exhausted_iff {ds : List Value} {rs : List TicketRecord} (h : Decodes ds rs) :
    Exhausted rs ↔ 4 ≤ soldOutAmong ds := by
  unfold Exhausted
  rw [h.soldOutCount_eq]

/-- What a request answers, and the notification that is due. -/
inductive Resolved (ds : List Value) (r : AvailabilityRequest) :
    Except TicketError TicketListing → Option SwitchNotification → Prop
  | malformed {offline : List Value} {d : Value} :
      Arranged (OfferedFor r) PriceBefore ds offline → d ∈ offline → Malformed d →
      Resolved ds r (.error unreadable) none
  | available {offline : List Value} {rs : List TicketRecord} :
      Arranged (OfferedFor r) PriceBefore ds offline → Decodes offline rs →
      soldOutAmong offline < 4 → Resolved ds r (.ok ⟨rs.map .ofRecord, []⟩) none
  | exhausted {offline : List Value} {rs : List TicketRecord} {last : TicketRecord}
      {suggestions : List SuggestionView} :
      Arranged (OfferedFor r) PriceBefore ds offline → Decodes offline rs →
      4 ≤ soldOutAmong offline → rs.getLast? = some last →
      Suggested ds last.tag (.ok suggestions) →
      Resolved ds r (.ok ⟨rs.map .ofRecord, suggestions⟩) (some ⟨last.tag, r.countryCode⟩)
  | unsuggested {offline : List Value} {rs : List TicketRecord} {last : TicketRecord}
      {e : TicketError} :
      Arranged (OfferedFor r) PriceBefore ds offline → Decodes offline rs →
      4 ≤ soldOutAmong offline → rs.getLast? = some last → Suggested ds last.tag (.error e) →
      Resolved ds r (.error e) none

theorem exists_resolved (ds : List Value) (r : AvailabilityRequest) :
    ∃ answer notice, Resolved ds r answer notice := by
  have hoff := arranged_offlineByCountryEvent ds r.countryCode r.eventId
  obtain ⟨rs, hrs⟩ | ⟨d, hd, hm⟩ := decodes_or_exists_malformed
    ((TicketQuery.offlineByCountryEvent r.countryCode r.eventId).select ds)
  · by_cases h : Exhausted rs
    · obtain ⟨last, hl⟩ := h.exists_last
      have hsold := hrs.exhausted_iff.1 h
      obtain ⟨e | suggestions, hs⟩ := exists_suggested ds last.tag
      · exact ⟨_, _, .unsuggested hoff hrs hsold hl hs⟩
      · exact ⟨_, _, .exhausted hoff hrs hsold hl hs⟩
    · exact ⟨_, _, .available hoff hrs (Nat.lt_of_not_le fun hle => h (hrs.exhausted_iff.2 hle))⟩
  · exact ⟨_, _, .malformed hoff hd hm⟩

section Resolve

variable {ds : List Value} {r : AvailabilityRequest}

/-- With an exhausted list a request answers and announces as the search for suggestions ends. -/
theorem run_resolve_of_exhausted {offline : List Value} {rs : List TicketRecord}
    {last : TicketRecord} {suggested : Except TicketError (List SuggestionView)}
    (hoff : Arranged (OfferedFor r) PriceBefore ds offline) (hrs : Decodes offline rs)
    (hsold : 4 ≤ soldOutAmong offline) (hl : rs.getLast? = some last)
    (hs : Suggested ds last.tag suggested) (topic : String) (id : Uuid) (deadline : Option Nat)
    (time : Nat) :
    let run := ((TicketService.withTopic topic).resolve id r).run MemoryStore.store deadline time ⟨ds⟩
    run.result = suggested.map (fun views => ⟨rs.map .ofRecord, views⟩) ∧
      run.announcements.map Announcement.notification =
        if suggested.isOk then [⟨last.tag, r.countryCode⟩] else [] := by
  have hex : Exhausted rs := hrs.exhausted_iff.2 hsold
  have hresult : (((TicketService.withTopic topic).complete id r rs).run MemoryStore.store deadline
      time ⟨ds⟩).result = suggested.map fun views => ⟨rs.map .ofRecord, views⟩ := by
    rw [result_complete_of_exhausted hex hl, hs.result_suggest]
  rw [hoff.unique (arranged_offlineByCountryEvent ds r.countryCode r.eventId)] at hrs
  rw [TicketService.resolve_eq, run_lookupMany_bind_of_decodes hrs]
  refine ⟨hresult, ?_⟩
  simp only [Run.after, announcements_complete_of_exhausted hex hl, hresult]
  cases suggested <;> rfl

/-- `resolve` ends in what the request answers, and announces the notification that is due. -/
theorem Resolved.run_resolve {answer : Except TicketError TicketListing}
    {notice : Option SwitchNotification} (h : Resolved ds r answer notice) (topic : String)
    (id : Uuid) (deadline : Option Nat) (time : Nat) :
    let run := ((TicketService.withTopic topic).resolve id r).run MemoryStore.store deadline time ⟨ds⟩
    run.result = answer ∧ run.announcements.map Announcement.notification = notice.toList := by
  have hsel := arranged_offlineByCountryEvent ds r.countryCode r.eventId
  cases h with
  | malformed hoff hd hm =>
    rw [hoff.unique hsel] at hd
    rw [TicketService.resolve_eq]
    obtain ⟨events, hrun⟩ := run_lookupMany_bind_of_malformed hd hm
    rw [hrun]
    exact ⟨rfl, rfl⟩
  | available hoff hrs hsold =>
    have hex := mt hrs.exhausted_iff.1 (Nat.not_le_of_lt hsold)
    rw [hoff.unique hsel] at hrs
    rw [TicketService.resolve_eq, run_lookupMany_bind_of_decodes hrs,
      TicketService.complete_of_not_exhausted topic id r hex]
    exact ⟨rfl, rfl⟩
  | exhausted hoff hrs hsold hl hs =>
    exact run_resolve_of_exhausted hoff hrs hsold hl hs topic id deadline time
  | unsuggested hoff hrs hsold hl hs =>
    exact run_resolve_of_exhausted hoff hrs hsold hl hs topic id deadline time

/-- What `resolve` ends in is what the request answers. -/
theorem resolved_of_result {answer : Except TicketError TicketListing} {topic : String} {id : Uuid}
    {deadline : Option Nat} {time : Nat}
    (h : (((TicketService.withTopic topic).resolve id r).run MemoryStore.store deadline time
      ⟨ds⟩).result = answer) : ∃ notice, Resolved ds r answer notice := by
  obtain ⟨answer', notice, hres⟩ := exists_resolved ds r
  rw [(hres.run_resolve topic id deadline time).1] at h
  exact ⟨notice, h ▸ hres⟩

end Resolve

/-- Over the documents of a store in memory, whatever the deadline, a request has an answer; it is
the one that `resolve` gives, and the publisher is handed a message that carries the notification that
is due and nothing else. -/
theorem resolve_lists_suggests_notifies (topic : String) (publisher : Publisher π)
    (deadline : Option Nat) (ds : List Value) (begin : π) (id : Uuid) (r : AvailabilityRequest) :
    let service := TicketService.withTopic topic
    let p := service.perform MemoryStore.store publisher deadline (⟨ds⟩, begin) (service.resolve id r)
    (∃ answer notice, Resolved ds r answer notice) ∧
      ∀ answer notice, Resolved ds r answer notice →
        let messages : List Message := notice.toList.map fun n => ⟨topic, n.payload⟩
        p.result = answer ∧ List.Forall₂ (Message.Carries topic) notice.toList messages ∧
          p.published = messages ∧
          p.publisher = messages.foldl (fun state m => (publisher.publish state m).1) begin := by
  intro service p
  refine ⟨exists_resolved ds r, ?_⟩
  intro answer notice h messages
  obtain ⟨hresult, hannounced⟩ := h.run_resolve topic id deadline 0
  have hpublished : p.published = messages := by
    have := perform_published service MemoryStore.store publisher deadline (⟨ds⟩, begin)
      (service.resolve id r)
    rw [hannounced] at this
    exact this
  have hpub := perform_publisher service MemoryStore.store publisher deadline (⟨ds⟩, begin)
    (service.resolve id r)
  refine ⟨hresult, forall₂_carries_message service.notifier notice.toList, hpublished, ?_⟩
  rw [← hpublished]
  exact hpub

end BoxOffice
