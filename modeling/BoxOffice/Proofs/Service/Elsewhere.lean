import BoxOffice.Proofs.Service.Winner

/-!
# Suggestions from elsewhere

A request for an exhausted country is answered with suggestions. All of them are of the country
that the cheapest document with stock decides on (`Suggested.countryCode_eq`). Nothing keeps that
from being the country of the request: four of its tickets may be sold out while others of the same
tag are left. The suggestions are from elsewhere if and only if that is not the case
(`suggestions_elsewhere_iff`).
-/

namespace BoxOffice

open BoxOffice.Json BoxOffice.Text

variable {π : Type} {ds : List Value} {r : AvailabilityRequest} {t : Tag} {c : CountryCode}
  {d : Value} {v : SuggestionView} {listing : TicketListing}

/-! ## Countries -/

/-- The request is answered with suggestions for the tag: its documents are exhausted, and the last
one has the tag. -/
def SwitchesTo (ds : List Value) (r : AvailabilityRequest) (t : Tag) : Prop :=
  ∃ offline rs last, Arranged (OfferedFor r) PriceBefore ds offline ∧ Decodes offline rs ∧
    4 ≤ soldOutAmong offline ∧ rs.getLast? = some last ∧ last.tag = t

/-- The cheapest document that has stock is a record of the country. -/
def WonBy (ds : List Value) (t : Tag) (c : CountryCode) : Prop :=
  ∃ w others winner, Arranged (StockedWith t) PriceBefore ds (w :: others) ∧
    TicketRecord.ofValue w = .ok winner ∧ winner.country.code = c

/-- A document of a country is shown with its code. -/
theorem TaggedIn.countryCode_eq (h : TaggedIn c t d) (hv : ShownAs v d) : v.countryCode = c.text := by
  obtain ⟨-, hcode, -⟩ := h
  obtain ⟨shown, hd, rfl⟩ := hv
  exact (countryCode_of_ofValue hd hcode).trans c.trim_text

/-- The suggestions are all of the country that won. -/
theorem Suggested.countryCode_eq {views : List SuggestionView} (hs : Suggested ds t (.ok views))
    (hwon : WonBy ds t c) (hv : v ∈ views) : v.countryCode = c.text := by
  obtain ⟨w, others, winner, hw, hd, rfl⟩ := hwon
  obtain ⟨d', -, htag, hshown⟩ := (hs.mem_iff hw hd v).1 hv
  exact htag.countryCode_eq hshown

/-- A country that won has a suggestion if and only if one of its documents has the tag as it is
looked up. -/
theorem Suggested.ne_nil_iff_of_wonBy {views : List SuggestionView}
    (hs : Suggested ds t (.ok views)) (hwon : WonBy ds t c) :
    views ≠ [] ↔ ∃ d ∈ ds, TaggedIn c t d := by
  obtain ⟨w, others, winner, hw, hd, rfl⟩ := hwon
  exact hs.ne_nil_iff hw hd

/-- Where anything is suggested, some country has won. -/
theorem Suggested.exists_wonBy {views : List SuggestionView} (hs : Suggested ds t (.ok views))
    (hne : views ≠ []) : ∃ c, WonBy ds t c := by
  cases hs with
  | nowhere hnone => exact absurd rfl hne
  | alternatives hw hd halt hrs => exact ⟨_, _, _, _, hw, hd, rfl⟩

/-! ## Requests -/

/-- A listing has the suggestions for the tag that the request switches to. -/
theorem Resolved.suggested {notice : Option SwitchNotification} (h : Resolved ds r (.ok listing) notice)
    (hswitch : SwitchesTo ds r t) : Suggested ds t (.ok listing.suggestions) := by
  obtain ⟨offline, rs, last, hoff, hrs, hsold, hl, rfl⟩ := hswitch
  cases h with
  | available hoff' hrs' hfew =>
    cases hoff.unique hoff'
    omega
  | exhausted hoff' hrs' hsold' hl' hs =>
    cases hoff.unique hoff'
    cases hrs.unique hrs'
    cases hl.symm.trans hl'
    exact hs

/-- A listing with suggestions is that of a request that switches. -/
theorem Resolved.exists_switchesTo {notice : Option SwitchNotification}
    (h : Resolved ds r (.ok listing) notice) (hne : listing.suggestions ≠ []) :
    ∃ t, SwitchesTo ds r t := by
  cases h with
  | available hoff hrs hfew => exact absurd rfl hne
  | exhausted hoff hrs hsold hl hs => exact ⟨_, _, _, _, hoff, hrs, hsold, hl, rfl⟩

/-- A suggestion comes of a tag that the request switches to, and of a country that won it. -/
theorem Resolved.exists_wonBy {notice : Option SwitchNotification}
    (h : Resolved ds r (.ok listing) notice) (hv : v ∈ listing.suggestions) :
    ∃ t c, SwitchesTo ds r t ∧ WonBy ds t c ∧ Suggested ds t (.ok listing.suggestions) := by
  have hne := List.ne_nil_of_mem hv
  obtain ⟨t, hswitch⟩ := h.exists_switchesTo hne
  have hs := h.suggested hswitch
  obtain ⟨c, hwon⟩ := hs.exists_wonBy hne
  exact ⟨t, c, hswitch, hwon, hs⟩

/-- When the suggestions of a listing are all from elsewhere. They are of one country, so otherwise
none of them is. -/
theorem suggestions_elsewhere_iff (topic : String) (publisher : Publisher π) (deadline : Option Nat)
    (begin : π) (id : Uuid)
    (hok : ((TicketService.withTopic topic).perform MemoryStore.store publisher deadline (⟨ds⟩, begin)
      ((TicketService.withTopic topic).resolve id r)).result = .ok listing) :
    ((∀ v ∈ listing.suggestions, v.countryCode ≠ r.countryCode.text) ↔
      ¬ ∃ t, SwitchesTo ds r t ∧ WonBy ds t r.countryCode ∧ ∃ d ∈ ds, TaggedIn r.countryCode t d) ∧
    ((∀ v ∈ listing.suggestions, v.countryCode ≠ r.countryCode.text) ∨
      ∀ v ∈ listing.suggestions, v.countryCode = r.countryCode.text) ∧
    ∀ t c, SwitchesTo ds r t → WonBy ds t c → ∀ v ∈ listing.suggestions, v.countryCode = c.text := by
  -- Some answer is right for the documents, and the run ends in it, so it is the one that was given.
  obtain ⟨notice, hres⟩ : ∃ notice, Resolved ds r (.ok listing) notice := by
    obtain ⟨answer, notice, hres⟩ := exists_resolved ds r
    rw [perform_result, (hres.run_resolve topic id deadline 0).1] at hok
    exact ⟨notice, hok ▸ hres⟩
  have hcode : ∀ t c, SwitchesTo ds r t → WonBy ds t c → ∀ v ∈ listing.suggestions,
      v.countryCode = c.text :=
    fun t c hswitch hwon v hv => (hres.suggested hswitch).countryCode_eq hwon hv
  refine ⟨⟨?_, ?_⟩, ?_, hcode⟩
  · rintro hall ⟨t, hswitch, hwon, htagged⟩
    have hne := ((hres.suggested hswitch).ne_nil_iff_of_wonBy hwon).2 htagged
    obtain ⟨v, hv⟩ := List.exists_mem_of_ne_nil _ hne
    exact hall v hv (hcode t _ hswitch hwon v hv)
  · intro hnone v hv hown
    obtain ⟨t, c, hswitch, hwon, hs⟩ := hres.exists_wonBy hv
    have hc : c = r.countryCode := Id.ext_text ((hs.countryCode_eq hwon hv).symm.trans hown)
    subst hc
    exact hnone ⟨t, hswitch, hwon, (hs.ne_nil_iff_of_wonBy hwon).1 (List.ne_nil_of_mem hv)⟩
  · by_cases hall : ∀ v ∈ listing.suggestions, v.countryCode ≠ r.countryCode.text
    · exact .inl hall
    · push Not at hall
      obtain ⟨w, hw, hown⟩ := hall
      obtain ⟨t, c, hswitch, hwon, -⟩ := hres.exists_wonBy hw
      refine .inr fun v hv => ?_
      calc v.countryCode = c.text := hcode t c hswitch hwon v hv
        _ = w.countryCode := (hcode t c hswitch hwon w hw).symm
        _ = r.countryCode.text := hown

/-! ## Five tickets -/

section Ascending

variable {offered stocked alternatives : List TicketRecord} {last winner : TicketRecord}
  (hord : ds.Pairwise fun a b => priceKey a ≤ priceKey b)

include hord

/-- Where documents ascend by price, the cheapest is the first of those that have stock. -/
theorem suggested_of_ascending
    (hstocked : Decodes (ds.filter (TicketQuery.cheapestAvailableByTag t).filter.accepts)
      (winner :: stocked))
    (halternatives : Decodes (ds.filter
      (TicketQuery.offlineByCountryTag winner.country.code t).filter.accepts) alternatives) :
    Suggested ds t (.ok (alternatives.map (SuggestionView.ofRecord .standard))) := by
  have hcheapest : Arranged (StockedWith t) PriceBefore ds
      (ds.filter (TicketQuery.cheapestAvailableByTag t).filter.accepts) :=
    arranged_filter_of_ascending (fun _ => accepts_cheapestAvailableByTag) hord
  obtain ⟨w, others, hw, -, hsplit⟩ := List.forall₂_cons_right_iff.1 hstocked
  rw [hsplit] at hcheapest
  exact .alternatives hcheapest hw
    (arranged_filter_of_ascending (fun _ => accepts_offlineByCountryTag) hord) halternatives

/-- Where documents ascend by price, a request lists those that are offered as they stand. -/
theorem resolved_of_ascending
    (hoffered : Decodes (ds.filter
      (TicketQuery.offlineByCountryEvent r.countryCode r.eventId).filter.accepts) offered)
    (hex : Exhausted offered) (hl : offered.getLast? = some last)
    {suggestions : List SuggestionView} (hs : Suggested ds last.tag (.ok suggestions)) :
    Resolved ds r (.ok ⟨offered.map .ofRecord, suggestions⟩) (some ⟨last.tag, r.countryCode⟩) :=
  .exhausted (arranged_filter_of_ascending (fun _ => accepts_offlineByCountryEvent) hord)
    hoffered (hoffered.exhausted_iff.1 hex) hl hs

end Ascending

/-- A document of an offline ticket of one event and category, in a country. -/
def stockDocument (country : String) (price remaining : Int64) : Value := .object [
  ("ticketId", .string "t-1"),
  ("eventId", .string "e-1"),
  ("ticketType", .string "CAT 1"),
  ("ticketPrice", .int64 price),
  ("totalQuota", .int64 10),
  ("totalRemaining", .int64 remaining),
  ("continentName", .string "Asia"),
  ("continentCode", .string "AS"),
  ("country", .object [("name", .string "Somewhere"), ("code", .string country)]),
  ("tag", .string "cat-1")]

/-- The record of `stockDocument`. -/
def stockRecord (country : CountryCode) (price remaining : Int64) : TicketRecord :=
  { ticketRecord with
    price := price
    totalRemaining := remaining
    country := ⟨"Somewhere", country, "", ""⟩ }

/-- The country code of Indonesia. -/
def indonesia : CountryCode := ⟨"ID", by decide, trimmed_of_ends rfl rfl rfl rfl⟩

/-- The country code of Singapore. -/
def singapore : CountryCode := ticketRecord.country.code

/-- A request for the tickets in Indonesia. -/
def indonesianRequest : AvailabilityRequest := ⟨indonesia, (stockRecord indonesia 0 0).eventId⟩

/-- Four tickets of Indonesia that are sold out, and a dearer one of a country that is not. -/
def fiveDocuments (country : String) : List Value := [
  stockDocument "ID" 100 0, stockDocument "ID" 110 0, stockDocument "ID" 120 0,
  stockDocument "ID" 130 0, stockDocument country 140 5]

/-- The records of the four tickets that are sold out. -/
def fourRecords : List TicketRecord := [
  stockRecord indonesia 100 0, stockRecord indonesia 110 0, stockRecord indonesia 120 0,
  stockRecord indonesia 130 0]

/-- The records of the five tickets, with the fifth in Indonesia. -/
def fiveRecords : List TicketRecord := fourRecords ++ [stockRecord indonesia 140 5]

/-- With the fifth ticket in Singapore, the four are offered in Indonesia. -/
theorem offered_with_singapore : Decodes ((fiveDocuments "SG").filter
    (TicketQuery.offlineByCountryEvent indonesia indonesianRequest.eventId).filter.accepts) fourRecords :=
  mapM_eq_ok_iff.1 (by decide +kernel)

/-- With the fifth ticket in Singapore, the four are listed, and the fifth is suggested. -/
theorem resolved_with_singapore : Resolved (fiveDocuments "SG") indonesianRequest
    (.ok ⟨fourRecords.map .ofRecord, [.ofRecord .standard (stockRecord singapore 140 5)]⟩)
    (some ⟨ticketRecord.tag, indonesia⟩) := by
  have hord : (fiveDocuments "SG").Pairwise fun a b => priceKey a ≤ priceKey b := by decide +kernel
  have hstocked : Decodes ((fiveDocuments "SG").filter (TicketQuery.cheapestAvailableByTag
      ticketRecord.tag).filter.accepts) [stockRecord singapore 140 5] :=
    mapM_eq_ok_iff.1 (by decide +kernel)
  have halternatives : Decodes ((fiveDocuments "SG").filter (TicketQuery.offlineByCountryTag
      singapore ticketRecord.tag).filter.accepts) [stockRecord singapore 140 5] :=
    mapM_eq_ok_iff.1 (by decide +kernel)
  have hsuggested := suggested_of_ascending hord hstocked halternatives
  have hlast : fourRecords.getLast? = some (stockRecord indonesia 130 0) := rfl
  exact resolved_of_ascending hord offered_with_singapore (by decide) hlast hsuggested

/-- With the fifth ticket in Indonesia, all five are suggested. -/
theorem suggested_in_indonesia : Suggested (fiveDocuments "ID") ticketRecord.tag
    (.ok (fiveRecords.map (SuggestionView.ofRecord .standard))) := by
  have hstocked : Decodes ((fiveDocuments "ID").filter (TicketQuery.cheapestAvailableByTag
      ticketRecord.tag).filter.accepts) [stockRecord indonesia 140 5] :=
    mapM_eq_ok_iff.1 (by decide +kernel)
  have halternatives : Decodes ((fiveDocuments "ID").filter (TicketQuery.offlineByCountryTag
      indonesia ticketRecord.tag).filter.accepts) fiveRecords :=
    mapM_eq_ok_iff.1 (by decide +kernel)
  exact suggested_of_ascending (by decide +kernel) hstocked halternatives

/-- With the fifth ticket in Indonesia, all five are listed as well. -/
theorem resolved_in_indonesia : Resolved (fiveDocuments "ID") indonesianRequest
    (.ok ⟨fiveRecords.map .ofRecord, fiveRecords.map (SuggestionView.ofRecord .standard)⟩)
    (some ⟨ticketRecord.tag, indonesia⟩) := by
  have hoffered : Decodes ((fiveDocuments "ID").filter (TicketQuery.offlineByCountryEvent
      indonesianRequest.countryCode indonesianRequest.eventId).filter.accepts) fiveRecords :=
    mapM_eq_ok_iff.1 (by decide +kernel)
  have hlast : fiveRecords.getLast? = some (stockRecord indonesia 140 5) := rfl
  exact resolved_of_ascending (by decide +kernel) hoffered (by decide) hlast suggested_in_indonesia

/-- With the fifth ticket in Singapore, the only suggestion for Indonesia is from elsewhere. -/
theorem suggestions_of_other_country :
    let service := TicketService.withTopic standardTopic
    let id : Uuid := ⟨List.replicate 32 0, rfl⟩
    ∃ listing : TicketListing, (service.perform MemoryStore.store .refusing none
        (⟨fiveDocuments "SG"⟩, ()) (service.resolve id indonesianRequest)).result = .ok listing ∧
      listing.suggestions = [.ofRecord .standard (stockRecord singapore 140 5)] ∧
      (∀ v ∈ listing.suggestions, v.countryCode ≠ indonesianRequest.countryCode.text) ∧
      ¬ ∃ t, SwitchesTo (fiveDocuments "SG") indonesianRequest t ∧
        WonBy (fiveDocuments "SG") t indonesianRequest.countryCode ∧
        ∃ d ∈ fiveDocuments "SG", TaggedIn indonesianRequest.countryCode t d := by
  intro service id
  have hok : (service.perform MemoryStore.store .refusing none (⟨fiveDocuments "SG"⟩, ())
      (service.resolve id indonesianRequest)).result = _ :=
    (resolved_with_singapore.run_resolve standardTopic id none 0).1
  have hother : ∀ v ∈ [SuggestionView.ofRecord .standard (stockRecord singapore 140 5)],
      v.countryCode ≠ indonesianRequest.countryCode.text := by decide
  exact ⟨_, hok, rfl, hother,
    (suggestions_elsewhere_iff standardTopic .refusing none () id hok).1.1 hother⟩

/-- With the fifth ticket in Indonesia as well, Indonesia itself is suggested for Indonesia. -/
theorem suggestions_of_own_country :
    let service := TicketService.withTopic standardTopic
    let id : Uuid := ⟨List.replicate 32 0, rfl⟩
    ∃ listing : TicketListing, (service.perform MemoryStore.store .refusing none
        (⟨fiveDocuments "ID"⟩, ()) (service.resolve id indonesianRequest)).result = .ok listing ∧
      ∃ v ∈ listing.suggestions, v.countryCode = indonesianRequest.countryCode.text := by
  intro service id
  exact ⟨_, (resolved_in_indonesia.run_resolve standardTopic id none 0).1, _, List.mem_cons_self, rfl⟩

end BoxOffice
