import BoxOffice.Proofs.Service.Shown

/-!
# Two notions of stock

The filter for available tickets asks whether the number of tickets left is positive (`inStock`). A view and the
count of exhaustion ask whether it is zero. The two part at documents where it is negative (`overdrawn`), and
nothing keeps such documents from a store.

1. What is counted as sold out and what is out of stock differ by the overdrawn documents
   (`Decodes.outOfStockAmong_eq`).
2. Views tell of the stock of their documents if and only if none of these is overdrawn (`TellsStock`).
3. That is so of a listing, of its suggestions, of a search for suggestions and of an online ticket
   (`stock_told_iff`).
-/

namespace BoxOffice

open BoxOffice.Json

variable {β π : Type} {ds docs : List Value} {d : Value} {r : AvailabilityRequest} {t : Tag}

/-! ## Documents -/

/-- The number of tickets left is positive, which the filter for available tickets asks for. -/
def inStock (d : Value) : Bool := (remainingAt? d).any (0 < ·)

/-- The number of tickets left is negative. -/
def overdrawn (d : Value) : Bool := (remainingAt? d).any (· < 0)

/-- How many of the documents have no ticket in stock. -/
def outOfStockAmong (docs : List Value) : Nat := docs.countP fun d => !inStock d

/-- The lookup for the cheapest ticket accepts the offline documents of a tag that are in stock. -/
theorem accepts_cheapest_iff : (TicketQuery.cheapestAvailableByTag t).filter.accepts d = true ↔
    Offline d ∧ d.stringAt? "tag" = some t.text ∧ inStock d = true := by
  rw [accepts_cheapestAvailableByTag]
  unfold StockedWith inStock
  simp only [Option.any_eq_true, decide_eq_true_eq]

section Record

variable {record : TicketRecord} (hd : TicketRecord.ofValue d = .ok record)

include hd

/-- A document is in stock, sold out or overdrawn, and is one of these only. -/
theorem stock_cases_of_ofValue :
    (inStock d = true ∧ record.isSold = false ∧ overdrawn d = false) ∨
    (inStock d = false ∧ record.isSold = true ∧ overdrawn d = false) ∨
    (inStock d = false ∧ record.isSold = false ∧ overdrawn d = true) := by
  unfold inStock overdrawn TicketRecord.isSold
  rw [remainingAt?_of_ofValue hd, Option.any_some, Option.any_some]
  simp only [decide_eq_true_eq, decide_eq_false_iff_not, beq_iff_eq, beq_eq_false_iff_ne, ne_eq,
    ← Int64.toInt_inj, Int64.lt_iff_toInt_lt, Int64.toInt_zero]
  omega

/-- A record is in stock where it is not sold out if and only if its document is not overdrawn. -/
theorem isSold_agrees_iff_of_ofValue :
    (record.isSold = false ↔ inStock d = true) ↔ overdrawn d = false := by
  rcases stock_cases_of_ofValue hd with ⟨hin, hsold, hover⟩ | ⟨hin, hsold, hover⟩ | ⟨hin, hsold, hover⟩
  all_goals simp [hin, hsold, hover]

end Record

/-- Overdrawn documents are out of stock as well, but are not counted as sold out. -/
theorem Decodes.outOfStockAmong_eq {rs : List TicketRecord} (h : Decodes docs rs) :
    outOfStockAmong docs = soldOutAmong docs + docs.countP overdrawn := by
  rw [← h.soldOutCount_eq]
  unfold outOfStockAmong soldOutCount
  induction h with
  | nil => rfl
  | @cons d record _ _ hd _ ih =>
    have hzero : decide (record.totalRemaining = 0) = record.isSold := rfl
    rw [List.countP_cons, List.countP_cons, List.countP_cons, ih, hzero]
    rcases stock_cases_of_ofValue hd with ⟨hin, hsold, hover⟩ | ⟨hin, hsold, hover⟩ | ⟨hin, hsold, hover⟩
    · simp [hin, hsold, hover]
    · simp [hin, hsold, hover]
      omega
    · simp [hin, hsold, hover]
      omega

theorem Decodes.soldOut_assess_eq_iff {rs : List TicketRecord} (h : Decodes docs rs) :
    (AvailabilityPolicy.standard.assess rs).soldOut = outOfStockAmong docs ↔ ∀ d ∈ docs, overdrawn d = false := by
  have hgap : soldOutAmong docs = outOfStockAmong docs ↔ docs.countP overdrawn = 0 := by
    rw [h.outOfStockAmong_eq]
    omega
  rw [soldOut_assess, h.soldOutCount_eq, hgap, List.countP_eq_zero]
  simp only [Bool.not_eq_true]

/-! ## Views -/

/-- The views that are not marked as sold are those of the documents in stock. -/
def StockTold (sold : β → Bool) (docs : List Value) (views : List β) : Prop :=
  List.Forall₂ (fun d v => sold v = false ↔ inStock d = true) docs views

/-- The views are those of the documents, one by one. That no document is overdrawn is what it takes for the views
to speak of stock as the filter does, for the policy to count all that is out of stock as sold out, and for
all views to be marked as sold where nothing is in stock. -/
structure TellsStock (view : TicketRecord → β) (sold : β → Bool) (docs : List Value) (views : List β) :
    Prop where
  shown : List.Forall₂ (fun d v => ∃ record, TicketRecord.ofValue d = .ok record ∧ v = view record) docs views
  told_iff : StockTold sold docs views ↔ ∀ d ∈ docs, overdrawn d = false
  counted_iff : ∀ rs, Decodes docs rs → ((AvailabilityPolicy.standard.assess rs).soldOut = outOfStockAmong docs ↔
    ∀ d ∈ docs, overdrawn d = false)
  sold_out_iff : (∀ d ∈ docs, inStock d = false) →
    ((∀ v ∈ views, sold v = true) ↔ ∀ d ∈ docs, overdrawn d = false)

section Views

variable {view : TicketRecord → β} {sold : β → Bool} {rs : List TicketRecord}
  (hview : ∀ record, sold (view record) = record.isSold) (h : Decodes docs rs)

include hview h

theorem stockTold_iff :
    StockTold sold docs (rs.map view) ↔ ∀ d ∈ docs, overdrawn d = false := by
  unfold StockTold
  induction h with
  | nil => simp
  | cons hd _ ih =>
    rw [List.map_cons, List.forall₂_cons, ih, hview, isSold_agrees_iff_of_ofValue hd, List.forall_mem_cons]

/-- Where nothing is in stock, the views that are not marked as sold are those of overdrawn documents. -/
theorem forall_sold_iff (hout : ∀ d ∈ docs, inStock d = false) :
    (∀ v ∈ rs.map view, sold v = true) ↔ ∀ d ∈ docs, overdrawn d = false := by
  induction h with
  | nil => simp
  | @cons d record _ _ hd _ ih =>
    rw [List.forall_mem_cons] at hout
    obtain ⟨hout, hrest⟩ := hout
    have hagree := isSold_agrees_iff_of_ofValue hd
    rw [List.map_cons, List.forall_mem_cons, List.forall_mem_cons, ih hrest, hview, ← hagree, hout]
    simp

theorem tellsStock_of_decodes : TellsStock view sold docs (rs.map view) where
  shown := by
    rw [List.forall₂_map_right_iff]
    exact h.imp fun d record hd => ⟨record, hd, rfl⟩
  told_iff := stockTold_iff hview h
  counted_iff := fun _ hrs => hrs.soldOut_assess_eq_iff
  sold_out_iff := forall_sold_iff hview h

end Views

/-- The view of one document tells of its stock. -/
theorem tellsStock_of_ofValue {view : TicketRecord → β} {sold : β → Bool} {record : TicketRecord}
    (hview : ∀ record, sold (view record) = record.isSold) (hd : TicketRecord.ofValue d = .ok record) :
    TellsStock view sold [d] [view record] :=
  tellsStock_of_decodes hview (.cons hd .nil)

theorem tellsStock_nil {view : TicketRecord → β} {sold : β → Bool}
    (hview : ∀ record, sold (view record) = record.isSold) : TellsStock view sold [] [] :=
  tellsStock_of_decodes hview .nil

/-! ## Answers -/

/-- The documents that are suggested for a tag: those of the country that won, if any did. -/
inductive Alternatives (ds : List Value) (t : Tag) : List Value → Prop
  | nowhere : Arranged (StockedWith t) PriceBefore ds [] → Alternatives ds t []
  | inCountry {c : CountryCode} {docs : List Value} : WonBy ds t c →
      Arranged (TaggedIn c t) PriceBefore ds docs → Alternatives ds t docs

/-- The documents that are suggested beside the tickets of a request: those of the tag that it switches to, if
it does. -/
inductive AlternativesFor (ds : List Value) (r : AvailabilityRequest) : List Value → Prop
  | available : (¬ ∃ t, SwitchesTo ds r t) → AlternativesFor ds r []
  | exhausted {t : Tag} {docs : List Value} : SwitchesTo ds r t → Alternatives ds t docs →
      AlternativesFor ds r docs

/-- A listing and its suggestions, each from its documents. -/
structure ListingTellsStock (l : TicketListing) (ds : List Value) (r : AvailabilityRequest) : Prop where
  tickets : ∃ docs, Arranged (OfferedFor r) PriceBefore ds docs ∧
    TellsStock .ofRecord TicketView.isSold docs l.tickets
  suggestions : ∃ docs, AlternativesFor ds r docs ∧
    TellsStock (.ofRecord .standard) SuggestionView.isSold docs l.suggestions

theorem Suggested.tellsStock {views : List SuggestionView} (h : Suggested ds t (.ok views)) :
    ∃ docs, Alternatives ds t docs ∧
      TellsStock (.ofRecord .standard) SuggestionView.isSold docs views := by
  cases h with
  | nowhere hnone => exact ⟨[], .nowhere hnone, tellsStock_nil fun _ => rfl⟩
  | alternatives hw hwinner halt hrs =>
    exact ⟨_, .inCountry ⟨_, _, _, hw, hwinner, rfl⟩ halt, tellsStock_of_decodes (fun _ => rfl) hrs⟩

theorem Resolved.tellsStock {l : TicketListing} {notice : Option SwitchNotification}
    (h : Resolved ds r (.ok l) notice) : ListingTellsStock l ds r := by
  cases h with
  | available hoff hrs hfew =>
    have hstays : ¬ ∃ t, SwitchesTo ds r t := by
      rintro ⟨t, offline, rs, last, hoff', -, hsold, -⟩
      cases hoff.unique hoff'
      omega
    exact ⟨⟨_, hoff, tellsStock_of_decodes (fun _ => rfl) hrs⟩,
      [], .available hstays, tellsStock_nil fun _ => rfl⟩
  | exhausted hoff hrs hsold hl hs =>
    obtain ⟨docs, halt, htells⟩ := hs.tellsStock
    exact ⟨⟨_, hoff, tellsStock_of_decodes (fun _ => rfl) hrs⟩,
      docs, .exhausted ⟨_, _, _, hoff, hrs, hsold, hl, rfl⟩ halt, htells⟩

/-- What is listed, suggested or sold online is said to be left if and only if the filter for available tickets
has it so, unless an overdrawn document is shown. -/
theorem stock_told_iff (topic : String) (publisher : Publisher π) (deadline : Option Nat) (ds : List Value)
    (begin : π) (id : Uuid) :
    let service := TicketService.withTopic topic
    (∀ t d, (TicketQuery.cheapestAvailableByTag t).filter.accepts d = true ↔
      Offline d ∧ d.stringAt? "tag" = some t.text ∧ inStock d = true) ∧
    (∀ r l, (service.perform MemoryStore.store publisher deadline (⟨ds⟩, begin)
      (service.resolve id r)).result = .ok l → ListingTellsStock l ds r) ∧
    (∀ outer t views, (service.perform MemoryStore.store publisher deadline (⟨ds⟩, begin)
      (service.suggest outer id t)).result = .ok views → ∃ docs, Alternatives ds t docs ∧
        TellsStock (.ofRecord .standard) SuggestionView.isSold docs views) ∧
    ∀ r v, (service.perform MemoryStore.store publisher deadline (⟨ds⟩, begin)
      (service.decideOnline id r)).result = .ok v →
        ∃ d rest, Arranged (SoldOnlineFor r) PlaceBefore ds (d :: rest) ∧
          TellsStock .ofRecord TicketView.isSold [d] [v] := by
  intro service
  refine ⟨fun t d => accepts_cheapest_iff, ?_, ?_, ?_⟩
  · intro r l hok
    obtain ⟨notice, hres⟩ := resolved_of_result hok
    exact hres.tellsStock
  · intro outer t views hok
    exact (suggested_of_result hok).tellsStock
  · intro r v hok
    obtain ⟨d, rest, record, honline, hd, rfl⟩ := exists_online_of_decideOnline hok
    exact ⟨d, rest, honline, tellsStock_of_ofValue (fun _ => rfl) hd⟩

/-- Four tickets that are sold out and one that is left are listed and suggested as such, and a sold online ticket
is sold as such beside them. -/
theorem stock_told_of_five_documents :
    let service := TicketService.withTopic standardTopic
    let id : Uuid := ⟨List.replicate 32 0, rfl⟩
    let ds := fiveDocuments "ID"
    (∃ l, (service.perform MemoryStore.store .refusing none (⟨ds⟩, ())
        (service.resolve id indonesianRequest)).result = .ok l ∧
      l.tickets.length = 5 ∧ l.suggestions.length = 5 ∧ ListingTellsStock l ds indonesianRequest) ∧
    (∃ views docs, (service.perform MemoryStore.store .refusing none (⟨ds⟩, ())
        (service.suggest [] id ticketRecord.tag)).result = .ok views ∧ views.length = 5 ∧
      Alternatives ds ticketRecord.tag docs ∧
      TellsStock (.ofRecord .standard) SuggestionView.isSold docs views) ∧
    ∃ v d rest, (service.perform MemoryStore.store .refusing none (⟨sixDocuments⟩, ())
        (service.decideOnline id singaporeanRequest)).result = .ok v ∧
      Arranged (SoldOnlineFor singaporeanRequest) PlaceBefore sixDocuments (d :: rest) ∧
      TellsStock .ofRecord TicketView.isSold [d] [v] := by
  intro service id ds
  have hlisting : (service.perform MemoryStore.store .refusing none (⟨ds⟩, ())
      (service.resolve id indonesianRequest)).result = _ :=
    (resolved_in_indonesia.run_resolve standardTopic id none 0).1
  have hviews : (service.perform MemoryStore.store .refusing none (⟨ds⟩, ())
      (service.suggest [] id ticketRecord.tag)).result = _ :=
    suggested_in_indonesia.result_suggest standardTopic [] id none 0
  have hsale := result_decideOnline_sixDocuments
  obtain ⟨-, hresolve, hsuggest, -⟩ := stock_told_iff standardTopic .refusing none ds () id
  obtain ⟨docs, halt, htells⟩ := hsuggest [] _ _ hviews
  obtain ⟨-, -, -, hdecide⟩ := stock_told_iff standardTopic .refusing none sixDocuments () id
  obtain ⟨d, rest, honline, hsold⟩ := hdecide _ _ hsale
  exact ⟨⟨_, hlisting, rfl, rfl, hresolve _ _ hlisting⟩, ⟨_, docs, hviews, rfl, halt, htells⟩,
    _, d, rest, hsale, honline, hsold⟩

/-- An overdrawn document is listed as a ticket that is left, though the country has nothing in stock. -/
theorem stock_told_of_overdrawn :
    let service := TicketService.withTopic standardTopic
    let id : Uuid := ⟨List.replicate 32 0, rfl⟩
    let ds := [stockDocument "ID" 100 (-1)]
    (∀ d ∈ ds, inStock d = false) ∧
      ∃ l, (service.perform MemoryStore.store .refusing none (⟨ds⟩, ())
          (service.resolve id indonesianRequest)).result = .ok l ∧
        (∃ v ∈ l.tickets, v.isSold = false) ∧
        ∀ docs, Arranged (OfferedFor indonesianRequest) PriceBefore ds docs →
          ¬ StockTold TicketView.isSold docs l.tickets := by
  intro service id ds
  have hout : ∀ d ∈ ds, inStock d = false := by decide +kernel
  have hlisting : (service.perform MemoryStore.store .refusing none (⟨ds⟩, ())
      (service.resolve id indonesianRequest)).result =
        .ok ⟨[.ofRecord (stockRecord indonesia 100 (-1))], []⟩ := by decide +kernel
  refine ⟨hout, _, hlisting, ⟨_, List.mem_cons_self, rfl⟩, ?_⟩
  intro docs harranged htold
  -- The one view is unsold, so its document would be in stock.
  obtain ⟨d, _, hunsold, -, rfl⟩ := List.forall₂_cons_right_iff.1 htold
  have hin : inStock d = true := hunsold.1 rfl
  have hmem : d ∈ ds := ((harranged.mem_iff d).1 List.mem_cons_self).1
  rw [hout d hmem] at hin
  cases hin

end BoxOffice
