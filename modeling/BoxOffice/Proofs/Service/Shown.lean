import BoxOffice.Proofs.Service.Elsewhere
import BoxOffice.Proofs.Ticket.Discount

/-!
# What buyers are shown

Whatever documents a store in memory holds, what a buyer is shown is true of them.

1. Views of a list are `ShownFrom` the documents: each is the view of a document of its own, and
   what it tells of price and stock stands in the document (`shownFrom_of_decodes`).
2. The filters compare raw texts, and views show what was decoded. The type is shown as it stands,
   the country code without blanks around it; the code that was asked for has none, so what is shown
   is what was asked for (`OfferedFor.shown`, `TaggedIn.shown`, `SoldOnlineFor.shown`).
3. Both together hold of a listing, of its suggestions, and of an online ticket
   (`views_true_of_documents`).
-/

namespace BoxOffice

open BoxOffice.Json BoxOffice.Text

variable {β π : Type} {ds : List Value} {r : AvailabilityRequest}

/-! ## Views and documents -/

/-- What a view tells of the price and the stock of a ticket. The price is the normal one. -/
structure Told where
  price : String
  isSold : Bool

/-- What a listed ticket tells. -/
def TicketView.told (v : TicketView) : Told := ⟨v.ticketPrice, v.isSold⟩

/-- What a suggestion tells. -/
def SuggestionView.told (v : SuggestionView) : Told := ⟨v.normalTicketPrice, v.isSold⟩

/-- The document has the price that is told, and it has no ticket left if and only if that is told. -/
structure Told.TrueOf (t : Told) (d : Value) : Prop where
  price : ∃ price, HasPrice d price ∧ shownPrice? t.price = some price
  isSold : t.isSold = true ↔ remainingAt? d = some 0

/-- The views are those of documents in places of their own, and what they tell is true of these
documents. -/
def ShownFrom (ds : List Value) (view : TicketRecord → β) (told : β → Told) (views : List β) : Prop :=
  ∃ places : List Nat, places.Nodup ∧ List.Forall₂ (fun v i => ∃ d record, ds[i]? = some d ∧
    TicketRecord.ofValue d = .ok record ∧ v = view record ∧ (told v).TrueOf d) views places

/-- The price and the stock of a record are true of its document. -/
theorem trueOf_of_ofValue {d : Value} {record : TicketRecord} (h : TicketRecord.ofValue d = .ok record) :
    (⟨formatPrice record.price, record.isSold⟩ : Told).TrueOf d where
  price := ⟨record.price, hasPrice_iff.2 (priceAt?_of_ofValue h), shownPrice?_formatPrice record.price⟩
  isSold := by
    rw [remainingAt?_of_ofValue h]
    simp [TicketRecord.isSold]

section Views

variable {view : TicketRecord → β} {told : β → Told}

/-- The views of the records of documents in places of their own are shown from them. -/
theorem shownFrom_of_places {out : List Value} {places : List Nat} {records : List TicketRecord}
    (hview : ∀ record, told (view record) = ⟨formatPrice record.price, record.isSold⟩)
    (hnodup : places.Nodup) (hplaces : List.Forall₂ (fun d i => ds[i]? = some d) out places)
    (hrecords : Decodes out records) : ShownFrom ds view told (records.map view) := by
  refine ⟨places, hnodup, ?_⟩
  clear hnodup
  induction hrecords generalizing places with
  | nil =>
    cases hplaces
    exact .nil
  | @cons d record _ _ hd _ ih =>
    cases hplaces with
    | cons hi hplaces =>
      have htold : (told (view record)).TrueOf d := by
        rw [hview]
        exact trueOf_of_ofValue hd
      exact .cons ⟨d, record, hi, hd, rfl, htold⟩ (ih hplaces)

/-- The views of the records that a lookup gives are shown from the documents. -/
theorem shownFrom_of_decodes {P : Value → Prop} {before : Value × Nat → Value × Nat → Prop}
    [Std.Asymm before] {out : List Value} {records : List TicketRecord}
    (hview : ∀ record, told (view record) = ⟨formatPrice record.price, record.isSold⟩)
    (h : Arranged P before ds out) (hrecords : Decodes out records) :
    ShownFrom ds view told (records.map view) := by
  obtain ⟨places, hnodup, hplaces⟩ := h.exists_places
  exact shownFrom_of_places hview hnodup hplaces hrecords

/-- What holds of the view of each document that a lookup may give holds of the views that it gives. -/
theorem forall_view_of_decodes {P : Value → Prop} {before : Value × Nat → Value × Nat → Prop}
    {out : List Value} {records : List TicketRecord} {Q : β → Prop} (h : Arranged P before ds out)
    (hrecords : Decodes out records)
    (hview : ∀ d record, P d → TicketRecord.ofValue d = .ok record → Q (view record)) :
    ∀ v ∈ records.map view, Q v := by
  intro v hv
  obtain ⟨record, hrecord, rfl⟩ := List.mem_map.1 hv
  obtain ⟨d, hd, hok⟩ := hrecords.exists_of_mem_right hrecord
  exact hview d record ((h.mem_iff d).1 hd).2 hok

theorem shownFrom_nil : ShownFrom ds view told [] := ⟨[], List.nodup_nil, .nil⟩

end Views

/-! ## Documents that were asked for -/

section Asked

variable {d : Value} {record : TicketRecord} (hd : TicketRecord.ofValue d = .ok record)

include hd

/-- The type of an offline document is another than that of online tickets. -/
theorem Offline.shown (h : Offline d) : record.ticketType ≠ "Online" := by
  unfold Offline at h
  rw [ticketType_of_ofValue hd] at h
  exact fun heq => h (congrArg some heq)

/-- A code that was asked for is shown as it was asked for. -/
theorem country_shown {c : CountryCode} (h : countryCodeAt? d = some c.text) :
    record.country.code.text = c.text :=
  (countryCode_of_ofValue hd h).trans c.trim_text

theorem OfferedFor.shown (h : OfferedFor r d) :
    record.country.code.text = r.countryCode.text ∧ record.ticketType ≠ "Online" :=
  ⟨country_shown hd h.2.1, h.1.shown hd⟩

theorem TaggedIn.shown {c : CountryCode} {t : Tag} (h : TaggedIn c t d) :
    record.country.code.text = c.text ∧ record.ticketType ≠ "Online" :=
  ⟨country_shown hd h.2.1, h.1.shown hd⟩

theorem SoldOnlineFor.shown (h : SoldOnlineFor r d) :
    record.country.code.text = r.countryCode.text ∧ record.ticketType = "Online" := by
  obtain ⟨htype, hcode, -⟩ := h
  rw [ticketType_of_ofValue hd] at htype
  exact ⟨country_shown hd hcode, Option.some.inj htype⟩

end Asked

/-! ## Listings -/

/-- The tickets of the listing are offline tickets of the country that was asked for, its
suggestions are offline tickets of one country, and both are shown from the documents. -/
structure TicketListing.TrueOf (l : TicketListing) (ds : List Value) (r : AvailabilityRequest) :
    Prop where
  tickets : ShownFrom ds TicketView.ofRecord TicketView.told l.tickets
  tickets_of_request :
    ∀ v ∈ l.tickets, v.countryCode = r.countryCode.text ∧ v.ticketType ≠ "Online"
  suggestions : ShownFrom ds (SuggestionView.ofRecord .standard) SuggestionView.told l.suggestions
  suggestions_of_one_country :
    ∃ code, ∀ v ∈ l.suggestions, v.countryCode = code ∧ v.ticketType ≠ "Online"

/-- What is suggested is shown from offline documents of one country. -/
theorem Suggested.shown {t : Tag} {views : List SuggestionView} (h : Suggested ds t (.ok views)) :
    ShownFrom ds (SuggestionView.ofRecord .standard) SuggestionView.told views ∧
      ∃ code, ∀ v ∈ views, v.countryCode = code ∧ v.ticketType ≠ "Online" := by
  cases h with
  | nowhere => exact ⟨shownFrom_nil, "", nofun⟩
  | @alternatives _ _ _ winner records hw hwinner halt hrecords =>
    exact ⟨shownFrom_of_decodes (fun _ => rfl) halt hrecords, winner.country.code.text,
      forall_view_of_decodes halt hrecords fun _ _ hd hok => hd.shown hok⟩

/-- A listing that answers a request is true of the documents. -/
theorem Resolved.trueOf {l : TicketListing} {notice : Option SwitchNotification}
    (h : Resolved ds r (.ok l) notice) : l.TrueOf ds r := by
  cases h with
  | available hoff hrecords hfew => exact {
      tickets := shownFrom_of_decodes (fun _ => rfl) hoff hrecords
      tickets_of_request :=
        forall_view_of_decodes hoff hrecords fun _ _ hd hok => hd.shown hok
      suggestions := shownFrom_nil
      suggestions_of_one_country := ⟨"", nofun⟩ }
  | exhausted hoff hrecords hsold hl hs => exact {
      tickets := shownFrom_of_decodes (fun _ => rfl) hoff hrecords
      tickets_of_request :=
        forall_view_of_decodes hoff hrecords fun _ _ hd hok => hd.shown hok
      suggestions := hs.shown.1
      suggestions_of_one_country := hs.shown.2 }

/-! ## Sales -/

/-- The view is that of the online ticket of the country that was asked for, and is shown from the
documents. -/
structure TicketView.TrueOf (v : TicketView) (ds : List Value) (r : AvailabilityRequest) : Prop where
  ticket : ShownFrom ds TicketView.ofRecord TicketView.told [v]
  of_request : v.countryCode = r.countryCode.text ∧ v.ticketType = "Online"

/-- A sale that ends in a view ends in that of the first online document. -/
theorem exists_online_of_decideOnline {topic : String} {id : Uuid} {deadline : Option Nat} {time : Nat}
    {v : TicketView} (h : (((TicketService.withTopic topic).decideOnline id r).run MemoryStore.store
      deadline time ⟨ds⟩).result = .ok v) :
    ∃ d rest record, Arranged (SoldOnlineFor r) PlaceBefore ds (d :: rest) ∧
      TicketRecord.ofValue d = .ok record ∧ v = .ofRecord record := by
  rw [TicketService.decideOnline_eq] at h
  obtain ⟨offline, hoff⟩ | ⟨d, hd, hm⟩ := decodes_or_exists_malformed
    ((TicketQuery.offlineByCountryEvent r.countryCode r.eventId).select ds)
  · rw [run_lookupMany_bind_of_decodes hoff] at h
    rcases TicketService.sell_cases topic id r offline with ⟨event, hsell⟩ | hsell
    · rw [hsell] at h
      cases h
    · obtain ⟨events, hrun⟩ := Plan.run_lookupOne_map (s := MemoryStore.store)
      rw [hsell, hrun] at h
      obtain ⟨record, hsettle, rfl⟩ := map_eq_ok_iff.1 h
      simp only [MemoryStore.store, arrive_now, Plan.settle_eq_ok_iff] at hsettle
      obtain ⟨d, rest, hsel, hok⟩ := MemoryStore.findOne_eq_some_iff.1 hsettle
      have honline := arranged_onlineByCountryEvent ds r.countryCode r.eventId
      rw [hsel] at honline
      exact ⟨d, rest, record, honline, hok, rfl⟩
  · obtain ⟨events, hrun⟩ := run_lookupMany_bind_of_malformed hd hm
    rw [hrun] at h
    cases h

/-- A sale that ends in a view is true of the documents. -/
theorem trueOf_of_decideOnline {topic : String} {id : Uuid} {deadline : Option Nat} {time : Nat}
    {v : TicketView} (h : (((TicketService.withTopic topic).decideOnline id r).run MemoryStore.store
      deadline time ⟨ds⟩).result = .ok v) : v.TrueOf ds r := by
  obtain ⟨d, rest, record, honline, hok, rfl⟩ := exists_online_of_decideOnline h
  have honly := ((honline.mem_iff d).1 List.mem_cons_self).2.shown hok
  obtain ⟨places, -, hplaces⟩ := honline.exists_places
  cases hplaces with
  | @cons _ i _ _ hi _ =>
    exact {
      ticket := shownFrom_of_places (fun _ => rfl) (List.nodup_singleton i) (.cons hi .nil)
        (.cons hok .nil)
      of_request := honly }

/-- Over the documents of a store in memory, whatever they are, what a request for a listing or for
the online ticket answers is true of them. -/
theorem views_true_of_documents (topic : String) (publisher : Publisher π) (deadline : Option Nat)
    (ds : List Value) (begin : π) (id : Uuid) (r : AvailabilityRequest) :
    let service := TicketService.withTopic topic
    let listing :=
      service.perform MemoryStore.store publisher deadline (⟨ds⟩, begin) (service.resolve id r)
    let sale :=
      service.perform MemoryStore.store publisher deadline (⟨ds⟩, begin) (service.decideOnline id r)
    (∀ l, listing.result = .ok l → l.TrueOf ds r) ∧ ∀ v, sale.result = .ok v → v.TrueOf ds r := by
  intro service listing sale
  refine ⟨fun l hl => ?_, fun v hv => trueOf_of_decideOnline hv⟩
  -- Some answer is right for the documents, and the run ends in it, so it is the listing.
  obtain ⟨answer, notice, hres⟩ := exists_resolved ds r
  have hanswer : listing.result = answer := (hres.run_resolve topic id deadline 0).1
  rw [hanswer] at hl
  exact (hl ▸ hres).trueOf

/-- A document of the online ticket of an event in Singapore. -/
def onlineDocument : Value := .object [
  ("ticketId", .string "t-1"),
  ("eventId", .string "e-1"),
  ("ticketType", .string "Online"),
  ("ticketPrice", .int64 250),
  ("totalQuota", .int64 10),
  ("totalRemaining", .int64 0),
  ("continentName", .string "Asia"),
  ("continentCode", .string "AS"),
  ("country", .object [("name", .string "Singapore"), ("code", .string "SG")]),
  ("tag", .string "cat-1")]

/-- A request for the tickets in Singapore. -/
def singaporeanRequest : AvailabilityRequest := ⟨singapore, ticketRecord.eventId⟩

/-- Five tickets in Indonesia, and the online ticket of Singapore. -/
def sixDocuments : List Value := fiveDocuments "ID" ++ [onlineDocument]

/-- The online ticket of Singapore is sold. -/
theorem result_decideOnline_sixDocuments :
    let service := TicketService.withTopic standardTopic
    (service.perform MemoryStore.store .refusing none (⟨sixDocuments⟩, ())
      (service.decideOnline ⟨List.replicate 32 0, rfl⟩ singaporeanRequest)).result =
        .ok (.ofRecord { ticketRecord with
          ticketType := "Online", price := 250, totalRemaining := 0 }) := by decide +kernel

/-- Four tickets that are sold out and one that is left are listed and suggested, and an online ticket is sold
beside them. -/
theorem views_true_of_five_documents :
    let service := TicketService.withTopic standardTopic
    let id : Uuid := ⟨List.replicate 32 0, rfl⟩
    (∃ l, (service.perform MemoryStore.store .refusing none (⟨fiveDocuments "ID"⟩, ())
        (service.resolve id indonesianRequest)).result = .ok l ∧
      l.tickets.map TicketView.isSold = [true, true, true, true, false] ∧
      l.suggestions.map SuggestionView.isSold = [true, true, true, true, false] ∧
      l.TrueOf (fiveDocuments "ID") indonesianRequest) ∧
    ∃ v, (service.perform MemoryStore.store .refusing none (⟨sixDocuments⟩, ())
        (service.decideOnline id singaporeanRequest)).result = .ok v ∧ v.isSold = true ∧
      v.TrueOf sixDocuments singaporeanRequest := by
  intro service id
  have hlisting : (service.perform MemoryStore.store .refusing none (⟨fiveDocuments "ID"⟩, ())
      (service.resolve id indonesianRequest)).result = _ :=
    (resolved_in_indonesia.run_resolve standardTopic id none 0).1
  have hsale := result_decideOnline_sixDocuments
  exact ⟨⟨_, hlisting, by decide, by decide,
      (views_true_of_documents standardTopic .refusing none _ () id _).1 _ hlisting⟩,
    _, hsale, rfl, (views_true_of_documents standardTopic .refusing none _ () id _).2 _ hsale⟩

end BoxOffice
