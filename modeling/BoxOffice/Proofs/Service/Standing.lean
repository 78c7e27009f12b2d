import BoxOffice.Proofs.Service.Winner
import BoxOffice.Store.Script
import Mathlib.Logic.ExistsUnique

/-!
# Where a country stands

A request for the listing of a country and one for its online ticket begin with the same lookup.
Whatever the stores answer, both take the country to stand alike.

1. The answer to the lookup tells one `Standing` of four (`existsUnique_toldBy`): nothing is known,
   offline tickets are still on sale, none is listed, or they are exhausted.
2. `Standing.Conduct` says what either request does then. Nothing known makes both fail alike. While
   offline tickets are on sale, they are listed and the online ticket is refused. In the other two
   cases the online ticket is looked up; alternatives are looked up with an exhausted country only.
3. Both requests keep to it (`conduct_of_told`).
-/

namespace BoxOffice

variable {σ σ' π : Type}

/-! ## Standings -/

/-- What is known of the offline tickets of an event in a country. -/
inductive Standing where
  | unknown
  | selling (offline : List TicketRecord)
  | unlisted
  | exhausted (offline : List TicketRecord)

/-- The answer to the lookup of the offline tickets tells the standing. -/
def Standing.ToldBy (answer : StoreResult (Option (List TicketRecord))) : Standing → Prop
  | .unknown => ∀ offline, answer ≠ .ok (some offline)
  | .selling offline => answer = .ok (some offline) ∧ offline ≠ [] ∧ soldOutCount offline ≤ 3
  | .unlisted => answer = .ok (some [])
  | .exhausted offline => answer = .ok (some offline) ∧ 4 ≤ soldOutCount offline

theorem not_exhausted_nil : ¬ 4 ≤ soldOutCount [] := by decide

theorem Standing.exists_toldBy (answer : StoreResult (Option (List TicketRecord))) :
    ∃ standing : Standing, standing.ToldBy answer := by
  rcases answer with e | _ | offline
  · exact ⟨.unknown, nofun⟩
  · exact ⟨.unknown, nofun⟩
  · by_cases h4 : 4 ≤ soldOutCount offline
    · exact ⟨.exhausted offline, rfl, h4⟩
    · by_cases hnil : offline = []
      · exact ⟨.unlisted, by rw [hnil]; rfl⟩
      · exact ⟨.selling offline, rfl, hnil, by omega⟩

theorem Standing.ToldBy.unique {answer : StoreResult (Option (List TicketRecord))}
    {standing other : Standing} (h : standing.ToldBy answer) (h' : other.ToldBy answer) :
    other = standing := by
  have hnil := not_exhausted_nil
  cases standing <;> cases other <;> simp only [Standing.ToldBy] at h h' <;> grind

/-- An answer tells one standing. -/
theorem existsUnique_toldBy (answer : StoreResult (Option (List TicketRecord))) :
    ∃! standing : Standing, standing.ToldBy answer := by
  obtain ⟨standing, h⟩ := Standing.exists_toldBy answer
  exact ⟨standing, h, fun other h' => h.unique h'⟩

/-! ## Conduct -/

section Conduct

variable (r : AvailabilityRequest)

/-- The lookup that both requests begin with. -/
def AvailabilityRequest.offlineQuery : TicketQuery := .offlineByCountryEvent r.countryCode r.eventId

/-- The lookup of the online ticket. -/
def AvailabilityRequest.onlineQuery : TicketQuery := .onlineByCountryEvent r.countryCode r.eventId

/-- Both requests fail alike, and ask nothing more. -/
structure BothFail (answer : StoreResult (Option (List TicketRecord)))
    (listing : Performance σ π TicketListing) (sale : Performance σ' π TicketView) : Prop where
  errors : ∃ e e', listing.result = .error e ∧ sale.result = .error e' ∧ e.code = e'.code
  failed : ∀ x, answer = .error x →
    listing.result = .error x.toTicketError ∧ sale.result = .error x.toTicketError
  absent : answer = .ok none → listing.result = .error (.notFound "ticket not found") ∧
    sale.result = .error (.notFound "offline ticket not found")
  calls : listing.calls = [r.offlineQuery] ∧ sale.calls = [r.offlineQuery]
  published : listing.published = []

/-- The offline tickets are listed without suggestions, nothing more is asked, and nothing is
published. -/
structure ListsOnly (offline : List TicketRecord) (listing : Performance σ π TicketListing) :
    Prop where
  result : listing.result = .ok ⟨offline.map .ofRecord, []⟩
  calls : listing.calls = [r.offlineQuery]
  published : listing.published = []

/-- The online ticket is refused without being looked up. -/
structure Refuses (sale : Performance σ π TicketView) : Prop where
  result : sale.result = .error (.conflict "Offline ticket still available")
  calls : sale.calls = [r.offlineQuery]

/-- The online ticket is looked up, and the answer decides. -/
structure SellsOnline (answer : StoreResult (Option TicketRecord))
    (sale : Performance σ π TicketView) : Prop where
  calls : sale.calls = [r.offlineQuery, r.onlineQuery]
  result : sale.result = (Plan.settle "ticket not found" answer).map .ofRecord
  no_conflict : ∀ message, sale.result ≠ .error (.conflict message)

/-- The cheapest alternative is looked up. If the request succeeds, it lists the offline tickets and
publishes the switch to online sale; otherwise it publishes nothing. -/
structure LooksElsewhere (topic : String) (offline : List TicketRecord)
    (listing : Performance σ π TicketListing) : Prop where
  calls : ∃ last rest, offline.getLast? = some last ∧
    listing.calls = r.offlineQuery :: .cheapestAvailableByTag last.tag :: rest
  tickets : ∀ l, listing.result = .ok l → l.tickets = offline.map .ofRecord
  published : ∀ last, offline.getLast? = some last → listing.published =
    if listing.result.isOk then
      [⟨topic, (⟨last.tag, r.countryCode⟩ : SwitchNotification).payload⟩] else []

/-- What the two requests do about a country, by its standing. -/
def Standing.Conduct (topic : String) (answer : StoreResult (Option (List TicketRecord)))
    (onlineAnswer : StoreResult (Option TicketRecord)) (listing : Performance σ π TicketListing)
    (sale : Performance σ' π TicketView) : Standing → Prop
  | .unknown => BothFail r answer listing sale
  | .selling offline => ListsOnly r offline listing ∧ Refuses r sale
  | .unlisted => ListsOnly r [] listing ∧ SellsOnline r onlineAnswer sale
  | .exhausted offline => LooksElsewhere r topic offline listing ∧ SellsOnline r onlineAnswer sale

end Conduct

/-! ## The listing -/

section Listing

variable (s : TicketStore σ) (publisher : Publisher π) (state : σ) (begin : π) (topic : String)
  (id : Uuid) (r : AvailabilityRequest) {offline : List TicketRecord}

/-- What a request for a listing comes to, without a deadline. -/
abbrev listingOf : Performance σ π TicketListing :=
  (TicketService.withTopic topic).perform s publisher none (state, begin)
    ((TicketService.withTopic topic).resolve id r)

variable {s state r} {deadline : Option Nat}

/-- Without data the request fails as the lookup does. -/
theorem listing_of_settle_error {e : TicketError}
    (h : Plan.settle "ticket not found" (s.many state r.offlineQuery).2.outcome = .error e) :
    let listing := listingOf s publisher state begin topic id r
    listing.result = .error e ∧ listing.calls = [r.offlineQuery] ∧ listing.published = [] := by
  have harr : Plan.settle "ticket not found" ((s.many state r.offlineQuery).2.arrive none 0
      r.offlineQuery.operation).outcome = .error e := h
  obtain ⟨events, hrun⟩ := Plan.run_lookupMany_bind_of_error harr
  have hpublished := perform_published (TicketService.withTopic topic) s publisher none
    (state, begin) ((TicketService.withTopic topic).resolve id r)
  rw [show ((TicketService.withTopic topic).resolve id r).run s none 0 (state, begin).1 = _ from hrun]
    at hpublished
  exact ⟨congrArg Run.result hrun, congrArg Run.calls hrun, hpublished⟩

theorem listsOnly_of_not_exhausted
    (h : firstOutcome s deadline 0 state r = .ok (some offline)) (hex : ¬ Exhausted offline) :
    ListsOnly r offline ((TicketService.withTopic topic).perform s publisher deadline (state, begin)
      ((TicketService.withTopic topic).resolve id r)) := by
  obtain ⟨events, time, hrun⟩ := run_resolve_of_data (.withTopic topic) id h
  rw [TicketService.complete_of_not_exhausted topic id r hex] at hrun
  have hpublished := perform_published (TicketService.withTopic topic) s publisher deadline
    (state, begin) ((TicketService.withTopic topic).resolve id r)
  rw [hrun] at hpublished
  exact ⟨congrArg Run.result hrun, congrArg Run.calls hrun, hpublished⟩

theorem looksElsewhere_of_exhausted
    (h : firstOutcome s deadline 0 state r = .ok (some offline)) (hex : Exhausted offline) :
    LooksElsewhere r topic offline ((TicketService.withTopic topic).perform s publisher deadline
      (state, begin) ((TicketService.withTopic topic).resolve id r)) := by
  obtain ⟨last, hl⟩ := hex.exists_last
  obtain ⟨events, time, hrun⟩ := run_resolve_of_data (.withTopic topic) id h
  have hresult := congrArg Run.result hrun
  have hpublished := perform_published (TicketService.withTopic topic) s publisher deadline
    (state, begin) ((TicketService.withTopic topic).resolve id r)
  refine ⟨?_, ?_, ?_⟩
  · -- The order of the calls has the cheapest alternative next.
    obtain ⟨calls, hasks⟩ := asks_resolve s deadline 0 state topic id r
    have hrest := hasks.follows.tail ((data?_firstCall_eq_some_iff ..).2 h)
    have hnext : resolveInquiry r [offline] = some (.cheapestAvailableByTag last.tag) := by
      simp [resolveInquiry, hex, hl, suggestInquiry]
    obtain ⟨c, rest, rfl, hc⟩ := hrest.exists_cons hnext
    refine ⟨last, rest.map Call.query, hl, hasks.calls_eq.trans ?_⟩
    rw [List.map_cons, List.map_cons, hc]
    rfl
  · intro l hok
    have hcomplete := hresult.symm.trans hok
    simp only [Run.after, result_complete_of_exhausted hex hl] at hcomplete
    obtain ⟨views, -, rfl⟩ := map_eq_ok_iff.1 hcomplete
    rfl
  · intro last' hl'
    cases hl.symm.trans hl'
    rw [hpublished, perform_result]
    cases hres : (((TicketService.withTopic topic).resolve id r).run s deadline 0 state).result with
    | ok l =>
      rw [notifications_resolve_of_ok h hex hl hres]
      rfl
    | error e =>
      have hfails : ∀ l, (((TicketService.withTopic topic).resolve id r).run s deadline 0
          state).result ≠ .ok l := by
        intro l hok
        rw [hres] at hok
        cases hok
      rw [announcements_resolve_eq_nil (.inl hfails)]
      rfl

end Listing

/-! ## The sale -/

section Sale

variable (s : TicketStore σ) (publisher : Publisher π) (state : σ) (begin : π) (topic : String)
  (id : Uuid) (r : AvailabilityRequest) {offline : List TicketRecord}

/-- What a request for the online ticket comes to, without a deadline. -/
abbrev saleOf : Performance σ π TicketView :=
  (TicketService.withTopic topic).perform s publisher none (state, begin)
    ((TicketService.withTopic topic).decideOnline id r)

/-- What the store answers to the lookup of the online ticket, asked after the offline tickets. -/
abbrev onlineAnswer : StoreResult (Option TicketRecord) :=
  (s.one (s.many state r.offlineQuery).1 r.onlineQuery).2.outcome

variable {s state r}

/-- With data the sale is decided by it. -/
theorem run_decideOnline_of_data (h : (s.many state r.offlineQuery).2.outcome = .ok (some offline)) :
    ∃ events time, ((TicketService.withTopic topic).decideOnline id r).run s none 0 state =
      (((TicketService.withTopic topic).sell id r offline).run s none time
        (s.many state r.offlineQuery).1).after r.offlineQuery events := by
  have harr : ((s.many state r.offlineQuery).2.arrive none 0 r.offlineQuery.operation).outcome =
      .ok (some offline) := h
  obtain ⟨events, hrun⟩ := Plan.run_lookupMany_bind_of_data harr
  rw [TicketService.decideOnline_eq]
  exact ⟨events, _, hrun⟩

/-- Without data the request fails as the lookup does. -/
theorem sale_of_settle_error {e : TicketError}
    (h : Plan.settle "offline ticket not found" (s.many state r.offlineQuery).2.outcome = .error e) :
    let sale := saleOf s publisher state begin topic id r
    sale.result = .error e ∧ sale.calls = [r.offlineQuery] := by
  have harr : Plan.settle "offline ticket not found" ((s.many state r.offlineQuery).2.arrive none 0
      r.offlineQuery.operation).outcome = .error e := h
  obtain ⟨events, hrun⟩ := Plan.run_lookupMany_bind_of_error harr
  exact ⟨congrArg Run.result hrun, congrArg Run.calls hrun⟩

theorem refuses_of_on_sale (h : (s.many state r.offlineQuery).2.outcome = .ok (some offline))
    (hne : offline ≠ []) (hex : ¬ Exhausted offline) :
    Refuses r (saleOf s publisher state begin topic id r) := by
  obtain ⟨events, time, hrun⟩ := run_decideOnline_of_data topic id h
  rw [TicketService.sell_of_on_sale topic id r hne hex] at hrun
  exact ⟨congrArg Run.result hrun, congrArg Run.calls hrun⟩

theorem sellsOnline_of_none_on_sale
    (h : (s.many state r.offlineQuery).2.outcome = .ok (some offline))
    (hnone : offline ≠ [] → Exhausted offline) :
    SellsOnline r (onlineAnswer s state r) (saleOf s publisher state begin topic id r) := by
  obtain ⟨events, time, hrun⟩ := run_decideOnline_of_data topic id h
  obtain ⟨events', hlookup⟩ := Plan.run_lookupOne_map (s := s)
  rw [TicketService.sell_of_none_on_sale topic id r hnone, hlookup] at hrun
  have hresult : (saleOf s publisher state begin topic id r).result =
      (Plan.settle "ticket not found" (onlineAnswer s state r)).map .ofRecord :=
    congrArg Run.result hrun
  refine ⟨congrArg Run.calls hrun, hresult, ?_⟩
  intro message hconflict
  rw [hresult, map_eq_error_iff] at hconflict
  exact Plan.settle_ne_conflict _ message hconflict

end Sale

/-! ## Both -/

section Both

variable (s : TicketStore σ) (s' : TicketStore σ') (publisher : Publisher π) (state : σ) (state' : σ')
  (begin begin' : π) (topic : String) (id id' : Uuid) (r : AvailabilityRequest)
  {answer : StoreResult (Option (List TicketRecord))}

theorem bothFail_of_no_data (h : (s.many state r.offlineQuery).2.outcome = answer)
    (h' : (s'.many state' r.offlineQuery).2.outcome = answer)
    (hnone : ∀ offline, answer ≠ .ok (some offline)) :
    BothFail r answer (listingOf s publisher state begin topic id r)
      (saleOf s' publisher state' begin' topic id' r) := by
  rcases answer with x | _ | offline
  · obtain ⟨hresult, hcalls, hpublished⟩ := listing_of_settle_error publisher begin topic id
      (show Plan.settle _ _ = .error x.toTicketError by rw [h]; rfl)
    obtain ⟨hresult', hcalls'⟩ := sale_of_settle_error publisher begin' topic id'
      (show Plan.settle _ _ = .error x.toTicketError by rw [h']; rfl)
    refine ⟨⟨_, _, hresult, hresult', rfl⟩, ?_, nofun, ⟨hcalls, hcalls'⟩, hpublished⟩
    rintro _ ⟨⟩
    exact ⟨hresult, hresult'⟩
  · obtain ⟨hresult, hcalls, hpublished⟩ := listing_of_settle_error publisher begin topic id
      (show Plan.settle _ _ = .error (.notFound "ticket not found") by rw [h]; rfl)
    obtain ⟨hresult', hcalls'⟩ := sale_of_settle_error publisher begin' topic id'
      (show Plan.settle _ _ = .error (.notFound "offline ticket not found") by rw [h']; rfl)
    exact ⟨⟨_, _, hresult, hresult', rfl⟩, nofun, fun _ => ⟨hresult, hresult'⟩, ⟨hcalls, hcalls'⟩,
      hpublished⟩
  · exact absurd rfl (hnone offline)

/-- A request for the listing and one for the online ticket of an event in a country, of which the
stores answer the first lookup alike, act on the same standing of the country. -/
theorem conduct_of_told (h : (s.many state r.offlineQuery).2.outcome = answer)
    (h' : (s'.many state' r.offlineQuery).2.outcome = answer) :
    (∃! standing : Standing, standing.ToldBy answer) ∧
      ∀ standing : Standing, standing.ToldBy answer →
        standing.Conduct r topic answer (onlineAnswer s' state' r)
          (listingOf s publisher state begin topic id r)
          (saleOf s' publisher state' begin' topic id' r) := by
  refine ⟨existsUnique_toldBy answer, ?_⟩
  intro standing htold
  cases standing with
  | unknown =>
    exact bothFail_of_no_data s s' publisher state state' begin begin' topic id id' r h h' htold
  | selling offline =>
    obtain ⟨rfl, hne, hfew⟩ := htold
    have hex : ¬ Exhausted offline := Nat.not_le_of_lt (Nat.lt_succ_of_le hfew)
    exact ⟨listsOnly_of_not_exhausted publisher begin topic id h hex,
      refuses_of_on_sale publisher begin' topic id' h' hne hex⟩
  | unlisted =>
    cases htold
    exact ⟨listsOnly_of_not_exhausted publisher begin topic id h not_exhausted_nil,
      sellsOnline_of_none_on_sale publisher begin' topic id' h' fun hne => absurd rfl hne⟩
  | exhausted offline =>
    obtain ⟨rfl, hex⟩ := htold
    exact ⟨looksElsewhere_of_exhausted publisher begin topic id h hex,
      sellsOnline_of_none_on_sale publisher begin' topic id' h' fun _ => hex⟩

end Both

/-- With four tickets sold out, one request looks for a ticket elsewhere and the other one for the
online ticket. -/
theorem conduct_of_sold_out :
    let soldOut : TicketRecord := { ticketRecord with totalRemaining := 0 }
    let offline := List.replicate 4 soldOut
    let answers : ScriptedStore :=
      ⟨fun kind => if kind = .offlineByCountryEvent then [⟨.ok (some offline), 0⟩] else []⟩
    let r : AvailabilityRequest := ⟨soldOut.country.code, soldOut.eventId⟩
    let id : Uuid := ⟨List.replicate 32 0, rfl⟩
    (ScriptedStore.store.many answers r.offlineQuery).2.outcome = .ok (some offline) ∧
      Standing.ToldBy (.ok (some offline)) (.exhausted offline) ∧
      LooksElsewhere r standardTopic offline
        (listingOf ScriptedStore.store .refusing answers () standardTopic id r) ∧
      SellsOnline r (.ok none) (saleOf ScriptedStore.store .refusing answers () standardTopic id r) := by
  intro soldOut offline answers r id
  have h : (ScriptedStore.store.many answers r.offlineQuery).2.outcome = .ok (some offline) := rfl
  have htold : Standing.ToldBy (.ok (some offline)) (.exhausted offline) := ⟨rfl, by decide⟩
  have hconduct := (conduct_of_told ScriptedStore.store ScriptedStore.store .refusing answers answers
    () () standardTopic id id r h h).2 _ htold
  exact ⟨h, htold, hconduct.1, hconduct.2⟩

end BoxOffice
