import BoxOffice.Proofs.Service.Elsewhere

/-!
# Requests that keep to their documents

Documents of other countries, events and tags make no difference to a request, whatever they are.

1. A query selects among the documents that its filter accepts (`TicketQuery.select_eq_of_filter_eq`).
2. A run over documents in memory depends on what its queries select, and on nothing else of the
   documents (`Plan.run_eq_of_selects`).
3. The queries of a request are about the documents of its country and event. An exhausted one goes
   on to the documents of the tag that it switches to (`mem_calls_resolve`), of whatever country.
-/

namespace BoxOffice

open BoxOffice.Json

variable {α σ σ' π : Type} {ds ds' : List Value} {q : TicketQuery} {r : AvailabilityRequest}

/-! ## Selections -/

namespace TicketQuery

/-- Other documents than those with a property that the filter asks for make no difference. -/
theorem select_eq_of_filter_eq {p : Value → Bool} (hp : ∀ d, q.filter.accepts d = true → p d = true)
    (h : ds.filter p = ds'.filter p) : q.select ds = q.select ds' := by
  have hboth : ∀ d, (q.filter.accepts d && p d) = q.filter.accepts d := by
    intro d
    cases ha : q.filter.accepts d with
    | false => rfl
    | true => exact hp d ha
  have haccepted := congrArg (List.filter q.filter.accepts) h
  rw [List.filter_filter, List.filter_filter, funext hboth] at haccepted
  unfold select arrange
  rw [haccepted]

end TicketQuery

namespace MemoryStore

theorem findMany_eq_of_select_eq (h : q.select ds = q.select ds') :
    (⟨ds⟩ : MemoryStore).findMany q = (⟨ds'⟩ : MemoryStore).findMany q := by
  unfold findMany
  rw [h]

theorem findOne_eq_of_select_eq (h : q.select ds = q.select ds') :
    (⟨ds⟩ : MemoryStore).findOne q = (⟨ds'⟩ : MemoryStore).findOne q := by
  unfold findOne
  rw [h]

end MemoryStore

/-! ## Runs -/

section Memory

variable {spans : List Span} {deadline : Option Nat} {time : Nat}

/-- In memory a query is answered at once, and changes nothing. -/
theorem Plan.run_many_memory {next : StoreResult (Option (List TicketRecord)) → Plan α} :
    (Plan.many spans q next).run MemoryStore.store deadline time ⟨ds⟩ =
      ((next ((⟨ds⟩ : MemoryStore).findMany q)).run MemoryStore.store deadline time ⟨ds⟩).after q [] := by
  have harr : (MemoryStore.store.many ⟨ds⟩ q).2.arrive deadline time q.operation =
      ⟨(⟨ds⟩ : MemoryStore).findMany q, [], time⟩ := arrive_now ..
  simp only [run, harr]
  rfl

theorem Plan.run_one_memory {next : StoreResult (Option TicketRecord) → Plan α} :
    (Plan.one spans q next).run MemoryStore.store deadline time ⟨ds⟩ =
      ((next ((⟨ds⟩ : MemoryStore).findOne q)).run MemoryStore.store deadline time ⟨ds⟩).after q [] := by
  have harr : (MemoryStore.store.one ⟨ds⟩ q).2.arrive deadline time q.operation =
      ⟨(⟨ds⟩ : MemoryStore).findOne q, [], time⟩ := arrive_now ..
  simp only [run, harr]
  rfl

/-- Where the queries that a plan asks select the same documents, the plan runs in the same way. -/
theorem Plan.run_eq_of_selects {p : Plan α}
    (h : ∀ q ∈ (p.run MemoryStore.store deadline time ⟨ds⟩).calls, q.select ds = q.select ds') :
    p.run MemoryStore.store deadline time ⟨ds'⟩ =
      { p.run MemoryStore.store deadline time ⟨ds⟩ with store := ⟨ds'⟩ } := by
  induction p generalizing time with
  | done result => rfl
  | many spans q next ih =>
    have hfind := MemoryStore.findMany_eq_of_select_eq (h q List.mem_cons_self)
    rw [run_many_memory] at h ⊢
    rw [run_many_memory, ← hfind, ih _ fun q' hq' => h q' (List.mem_cons_of_mem q hq')]
    rfl
  | one spans q next ih =>
    have hfind := MemoryStore.findOne_eq_of_select_eq (h q List.mem_cons_self)
    rw [run_one_memory] at h ⊢
    rw [run_one_memory, ← hfind, ih _ fun q' hq' => h q' (List.mem_cons_of_mem q hq')]
    rfl
  | log e next ih =>
    simp only [run]
    rw [ih h]
  | announce a next ih =>
    simp only [run]
    rw [ih h]

end Memory

/-- Two performances have the same result, calls, messages, events and time. The stores that they
leave may differ. -/
structure SameAnswer (p : Performance σ π α) (p' : Performance σ' π α) : Prop where
  result : p.result = p'.result
  calls : p.calls = p'.calls
  published : p.published = p'.published
  publisher : p.publisher = p'.publisher
  events : p.events = p'.events
  time : p.time = p'.time

theorem sameAnswer_of_selects (service : TicketService) (publisher : Publisher π)
    (deadline : Option Nat) (begin : π) {plan : Plan α}
    (h : ∀ q ∈ (plan.run MemoryStore.store deadline 0 ⟨ds⟩).calls, q.select ds = q.select ds') :
    SameAnswer (service.perform MemoryStore.store publisher deadline (⟨ds⟩, begin) plan)
      (service.perform MemoryStore.store publisher deadline (⟨ds'⟩, begin) plan) := by
  have hrun := Plan.run_eq_of_selects h
  constructor <;> simp only [TicketService.perform, hrun]

/-! ## Queries of a request -/

section Calls

variable {topic : String} {id : Uuid} {deadline : Option Nat} {time : Nat}

/-- What is asked is asked next after some lists. -/
theorem Follows.exists_next {next : List (List TicketRecord) → Option TicketQuery}
    {calls : List Call} (h : Follows next calls) {c : Call} (hc : c ∈ calls) :
    ∃ found, next found = some c.query := by
  induction h with
  | finished => cases hc
  | cut hq =>
    rw [List.mem_singleton.1 hc]
    exact ⟨[], hq⟩
  | more hq _ _ ih =>
    rcases List.mem_cons.1 hc with rfl | hrest
    · exact ⟨[], hq⟩
    · obtain ⟨found, hnext⟩ := ih hrest
      exact ⟨_ :: found, hnext⟩

theorem suggestInquiry_eq_some {t : Tag} {found : List (List TicketRecord)}
    (h : suggestInquiry t found = some q) :
    q = .cheapestAvailableByTag t ∨ ∃ c, q = .offlineByCountryTag c t := by
  unfold suggestInquiry at h
  split at h
  · exact .inl (Option.some.inj h).symm
  · obtain ⟨winner, -, rfl⟩ := Option.map_eq_some_iff.1 h
    exact .inr ⟨_, rfl⟩
  · cases h

/-- A listing asks for the documents of its country and event, and for those of the tag that it
switches to, if it does. -/
theorem mem_calls_resolve (hq : q ∈ (((TicketService.withTopic topic).resolve id r).run
      MemoryStore.store deadline time ⟨ds⟩).calls) :
    q = .offlineByCountryEvent r.countryCode r.eventId ∨
      ∃ t, SwitchesTo ds r t ∧ (q = .cheapestAvailableByTag t ∨ ∃ c, q = .offlineByCountryTag c t) := by
  obtain ⟨calls, h⟩ := asks_resolve MemoryStore.store deadline time ⟨ds⟩ topic id r
  rw [h.calls_eq, List.map_cons] at hq
  rcases List.mem_cons.1 hq with rfl | hrest
  · exact .inl rfl
  · right
    obtain ⟨c, hc, rfl⟩ := List.mem_map.1 hrest
    have hfollows := h.follows
    cases hfollows with
    | cut hfirst hnone => cases hc
    | @more _ _ offline _ hfirst hdata hfollows =>
      -- What comes after the first list is asked for the tag of its last record.
      obtain ⟨found, hnext⟩ := hfollows.exists_next hc
      simp only [resolveInquiry] at hnext
      split at hnext
      · next hex =>
        obtain ⟨last, hl, hnext⟩ := Option.bind_eq_some_iff.1 hnext
        refine ⟨last.tag, ?_, suggestInquiry_eq_some hnext⟩
        have hfind : (⟨ds⟩ : MemoryStore).findMany
            (.offlineByCountryEvent r.countryCode r.eventId) = .ok (some offline) := by
          have houtcome := (data?_firstCall_eq_some_iff ..).1 hdata
          rw [firstOutcome] at houtcome
          simpa only [MemoryStore.store, arrive_now] using houtcome
        obtain ⟨rs, hrs, ⟨⟩⟩ := MemoryStore.findMany_eq_ok_iff.1 hfind
        exact ⟨_, offline, last, arranged_offlineByCountryEvent ds r.countryCode r.eventId, hrs,
          hrs.exhausted_iff.1 hex, hl, rfl⟩
      · cases hnext

/-- A sale asks for the documents of its country and event. -/
theorem mem_calls_decideOnline {s : TicketStore σ} {state : σ}
    (hq : q ∈ (((TicketService.withTopic topic).decideOnline id r).run s deadline time state).calls) :
    q = .offlineByCountryEvent r.countryCode r.eventId ∨
      q = .onlineByCountryEvent r.countryCode r.eventId := by
  rw [TicketService.decideOnline_eq, Plan.run_bind, Plan.run_lookupMany] at hq
  unfold Run.andThen at hq
  dsimp only at hq
  split at hq
  · next offline hdata =>
    rcases List.mem_append.1 hq with hfirst | hrest
    · exact .inl (List.mem_singleton.1 hfirst)
    · rcases TicketService.sell_cases topic id r offline with ⟨event, hsell⟩ | hsell
      · rw [hsell] at hrest
        cases hrest
      · obtain ⟨events, hrun⟩ := Plan.run_lookupOne_map (s := s)
        rw [hsell, hrun] at hrest
        exact .inr (List.mem_singleton.1 hrest)
  · exact .inl (List.mem_singleton.1 hq)

end Calls

/-! ## Documents of a request -/

/-- The document is of the country and the event of the request, however it is sold. -/
def isAbout (r : AvailabilityRequest) (d : Value) : Bool :=
  countryCodeAt? d = some r.countryCode.text ∧ d.stringAt? "eventId" = some r.eventId.text

/-- The document has the tag. -/
def hasTag (t : Tag) (d : Value) : Bool := d.stringAt? "tag" = some t.text

theorem select_eq_of_isAbout (h : ds.filter (isAbout r) = ds'.filter (isAbout r))
    (hq : q.filter.countryCode = some r.countryCode) (hq' : q.filter.eventId = some r.eventId) :
    q.select ds = q.select ds' := by
  refine TicketQuery.select_eq_of_filter_eq (fun d hd => ?_) h
  unfold TicketFilter.accepts at hd
  simp only [hq, hq', Option.all_some, Bool.and_eq_true, beq_iff_eq] at hd
  exact decide_eq_true ⟨hd.1.1.1.2, hd.1.1.2⟩

theorem select_eq_of_hasTag {t : Tag} (h : ds.filter (hasTag t) = ds'.filter (hasTag t))
    (hq : q.filter.tag = some t) : q.select ds = q.select ds' := by
  refine TicketQuery.select_eq_of_filter_eq (fun d hd => ?_) h
  unfold TicketFilter.accepts at hd
  simp only [hq, Option.all_some, Bool.and_eq_true, beq_iff_eq] at hd
  exact decide_eq_true hd.1.2

/-- Stores with the same documents of the country and the event of a request sell alike. They list
alike if, where the request switches to a tag, they have the same documents of the tag as well. -/
theorem requests_keep_to_documents (topic : String) (publisher : Publisher π) (deadline : Option Nat)
    (begin : π) (id : Uuid) (habout : ds.filter (isAbout r) = ds'.filter (isAbout r)) :
    let service := TicketService.withTopic topic
    SameAnswer
      (service.perform MemoryStore.store publisher deadline (⟨ds⟩, begin) (service.decideOnline id r))
      (service.perform MemoryStore.store publisher deadline (⟨ds'⟩, begin) (service.decideOnline id r)) ∧
    ((∀ t, SwitchesTo ds r t → ds.filter (hasTag t) = ds'.filter (hasTag t)) → SameAnswer
      (service.perform MemoryStore.store publisher deadline (⟨ds⟩, begin) (service.resolve id r))
      (service.perform MemoryStore.store publisher deadline (⟨ds'⟩, begin) (service.resolve id r))) := by
  intro service
  refine ⟨sameAnswer_of_selects service publisher deadline begin fun q hq => ?_, fun htag =>
    sameAnswer_of_selects service publisher deadline begin fun q hq => ?_⟩
  · rcases mem_calls_decideOnline hq with rfl | rfl
    · exact select_eq_of_isAbout habout rfl rfl
    · exact select_eq_of_isAbout habout rfl rfl
  · rcases mem_calls_resolve hq with rfl | ⟨t, hswitch, rfl | ⟨c, rfl⟩⟩
    · exact select_eq_of_isAbout habout rfl rfl
    · exact select_eq_of_hasTag (htag t hswitch) rfl
    · exact select_eq_of_hasTag (htag t hswitch) rfl

/-! ## A stray document -/

/-- A request switches to the tag of the last record that it finds. -/
theorem SwitchesTo.eq_last {t : Tag} {offline : List Value} {rs : List TicketRecord}
    {last : TicketRecord} (h : SwitchesTo ds r t) (hoff : Arranged (OfferedFor r) PriceBefore ds offline)
    (hrs : Decodes offline rs) (hl : rs.getLast? = some last) : t = last.tag := by
  obtain ⟨offline', rs', last', hoff', hrs', -, hl', rfl⟩ := h
  cases hoff.unique hoff'
  cases hrs.unique hrs'
  cases hl.symm.trans hl'
  rfl

/-- A document that is not looked for may stand anywhere. -/
theorem filter_insert_stray {p : Value → Bool} {stray : Value} (hstray : ¬ p stray) (n : Nat) :
    (ds.take n ++ stray :: ds.drop n).filter p = ds.filter p := by
  rw [List.filter_append, List.filter_cons_of_neg hstray, ← List.filter_append,
    List.take_append_drop]

/-- A document of another country and another tag that is no record. -/
def strayDocument : Value := .object [
  ("ticketType", .string "CAT 1"),
  ("eventId", .string "e-1"),
  ("country", .object [("code", .string "SG")]),
  ("tag", .string "cat-2")]

/-- A stray document among the five makes no difference to a request for the tickets in Indonesia. -/
theorem requests_keep_clear_of_stray :
    let ds := fiveDocuments "SG"
    let ds' := ds.take 2 ++ strayDocument :: ds.drop 2
    let service := TicketService.withTopic standardTopic
    let id : Uuid := ⟨List.replicate 32 0, rfl⟩
    Malformed strayDocument ∧
      ds.filter (isAbout indonesianRequest) = ds'.filter (isAbout indonesianRequest) ∧
      (∃ t, SwitchesTo ds indonesianRequest t) ∧
      (∀ t, SwitchesTo ds indonesianRequest t → ds.filter (hasTag t) = ds'.filter (hasTag t)) ∧
      SameAnswer
        (service.perform MemoryStore.store .refusing none (⟨ds⟩, ())
          (service.decideOnline id indonesianRequest))
        (service.perform MemoryStore.store .refusing none (⟨ds'⟩, ())
          (service.decideOnline id indonesianRequest)) ∧
      SameAnswer
        (service.perform MemoryStore.store .refusing none (⟨ds⟩, ())
          (service.resolve id indonesianRequest))
        (service.perform MemoryStore.store .refusing none (⟨ds'⟩, ())
          (service.resolve id indonesianRequest)) := by
  intro ds ds' service id
  have hmalformed : Malformed strayDocument :=
    malformed_iff.2 ⟨.missingField "name", by decide +kernel⟩
  have hoff : Arranged (OfferedFor indonesianRequest) PriceBefore ds _ :=
    arranged_filter_of_ascending (fun _ => accepts_offlineByCountryEvent) (by decide +kernel)
  have habout : ds.filter (isAbout indonesianRequest) = ds'.filter (isAbout indonesianRequest) :=
    (filter_insert_stray (by decide +kernel) 2).symm
  have hswitch : SwitchesTo ds indonesianRequest (stockRecord indonesia 130 0).tag :=
    ⟨_, fourRecords, _, hoff, offered_with_singapore, offered_with_singapore.exhausted_iff.1 (by decide),
      rfl, rfl⟩
  have htag : ∀ t, SwitchesTo ds indonesianRequest t →
      ds.filter (hasTag t) = ds'.filter (hasTag t) := by
    intro t ht
    rw [ht.eq_last hoff offered_with_singapore rfl]
    exact (filter_insert_stray (by decide +kernel) 2).symm
  obtain ⟨hsale, hlisting⟩ :=
    requests_keep_to_documents standardTopic .refusing none () id habout
  exact ⟨hmalformed, habout, ⟨_, hswitch⟩, htag, hsale, hlisting htag⟩

end BoxOffice
