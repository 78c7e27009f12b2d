import BoxOffice.Proofs.Store.Lookup
import BoxOffice.Ticket.Request

/-!
# Documents that the lookups are about

What the lookups for offline tickets accept, in terms of the members of a document, and what they
select in memory: the documents with a property in the order by price and place
(`arranged_offlineByCountryEvent` and its likes), of which the lookup for the cheapest one takes
the first.
-/

namespace BoxOffice

open BoxOffice.Json

/-! ## Documents -/

/-- The document is not sold online. -/
def Offline (d : Value) : Prop := d.stringAt? "ticketType" ≠ some "Online"

/-- An offline document of the event and the country of a request. -/
def OfferedFor (r : AvailabilityRequest) (d : Value) : Prop :=
  Offline d ∧ countryCodeAt? d = some r.countryCode.text ∧ d.stringAt? "eventId" = some r.eventId.text

/-- An offline document of a country with a tag. -/
def TaggedIn (c : CountryCode) (t : Tag) (d : Value) : Prop :=
  Offline d ∧ countryCodeAt? d = some c.text ∧ d.stringAt? "tag" = some t.text

/-- An offline document with a tag of which any ticket is left. -/
def StockedWith (t : Tag) (d : Value) : Prop :=
  Offline d ∧ d.stringAt? "tag" = some t.text ∧ ∃ n, remainingAt? d = some n ∧ 0 < n

/-- The online document of the event and the country of a request. -/
def SoldOnlineFor (r : AvailabilityRequest) (d : Value) : Prop :=
  d.stringAt? "ticketType" = some "Online" ∧ countryCodeAt? d = some r.countryCode.text ∧
    d.stringAt? "eventId" = some r.eventId.text

/-! ## Filters -/

theorem admits_offline_iff (d : Value) :
    Channel.offline.admits (d.stringAt? "ticketType") = true ↔ Offline d := by
  show (d.stringAt? "ticketType" != some onlineTicketType) = true ↔ _
  rw [bne_iff_ne]
  rfl

variable {c : CountryCode} {e : EventId} {t : Tag} {d : Value}

theorem accepts_offlineByCountryEvent :
    (TicketQuery.offlineByCountryEvent c e).filter.accepts d = true ↔ OfferedFor ⟨c, e⟩ d := by
  simp [TicketQuery.offlineByCountryEvent, TicketFilter.ofChannel, TicketFilter.accepts, OfferedFor,
    admits_offline_iff, and_assoc]

theorem accepts_offlineByCountryTag :
    (TicketQuery.offlineByCountryTag c t).filter.accepts d = true ↔ TaggedIn c t d := by
  simp [TicketQuery.offlineByCountryTag, TicketFilter.ofChannel, TicketFilter.accepts, TaggedIn,
    admits_offline_iff, and_assoc]

theorem accepts_cheapestAvailableByTag :
    (TicketQuery.cheapestAvailableByTag t).filter.accepts d = true ↔ StockedWith t d := by
  simp [TicketQuery.cheapestAvailableByTag, TicketFilter.ofChannel, TicketFilter.accepts, StockedWith,
    admits_offline_iff, and_assoc, Option.any_eq_true]

theorem accepts_onlineByCountryEvent :
    (TicketQuery.onlineByCountryEvent c e).filter.accepts d = true ↔ SoldOnlineFor ⟨c, e⟩ d := by
  simp [TicketQuery.onlineByCountryEvent, TicketFilter.ofChannel, TicketFilter.accepts,
    SoldOnlineFor, Channel.admits, onlineTicketType, and_assoc]

/-! ## Selections -/

variable (ds : List Value)

theorem arranged_offlineByCountryEvent (c : CountryCode) (e : EventId) :
    Arranged (OfferedFor ⟨c, e⟩) PriceBefore ds
      ((TicketQuery.offlineByCountryEvent c e).select ds) :=
  (TicketQuery.arranged_arrange (.offlineByCountryEvent c e) ds).congr
    fun _ => accepts_offlineByCountryEvent

theorem arranged_offlineByCountryTag (c : CountryCode) (t : Tag) :
    Arranged (TaggedIn c t) PriceBefore ds ((TicketQuery.offlineByCountryTag c t).select ds) :=
  (TicketQuery.arranged_arrange (.offlineByCountryTag c t) ds).congr
    fun _ => accepts_offlineByCountryTag

/-- The online documents stand in the order of their places. -/
theorem arranged_onlineByCountryEvent (c : CountryCode) (e : EventId) :
    Arranged (SoldOnlineFor ⟨c, e⟩) PlaceBefore ds
      ((TicketQuery.onlineByCountryEvent c e).select ds) :=
  (TicketQuery.arranged_arrange (.onlineByCountryEvent c e) ds).congr
    fun _ => accepts_onlineByCountryEvent

/-- The lookup for the cheapest document selects the first of those that have stock. -/
theorem arranged_cheapestAvailableByTag (t : Tag) :
    ∃ stocked, Arranged (StockedWith t) PriceBefore ds stocked ∧
      (TicketQuery.cheapestAvailableByTag t).select ds = stocked.take 1 :=
  ⟨(TicketQuery.cheapestAvailableByTag t).arrange ds,
    (TicketQuery.arranged_arrange (.cheapestAvailableByTag t) ds).congr
      fun _ => accepts_cheapestAvailableByTag, rfl⟩

theorem Arranged.select_cheapest {ds stocked : List Value} {t : Tag}
    (h : Arranged (StockedWith t) PriceBefore ds stocked) :
    (TicketQuery.cheapestAvailableByTag t).select ds = stocked.take 1 := by
  obtain ⟨stocked', h', hsel⟩ := arranged_cheapestAvailableByTag ds t
  rw [hsel, h.unique h']

end BoxOffice
