import BoxOffice.Ticket.Record

/-!
# Ticket queries

A `TicketQuery` describes one lookup among ticket documents, whatever the store: which documents match
(`TicketFilter.accepts`), whether they are sorted by price, and which page of them is wanted.
-/

namespace BoxOffice

open BoxOffice.Json

/-- The four lookups that tickets are looked up by. -/
inductive QueryKind where
  | offlineByCountryEvent
  | offlineByCountryTag
  | cheapestAvailableByTag
  | onlineByCountryEvent
  deriving Repr, DecidableEq

/-- The name of a lookup in errors and in the log. -/
def QueryKind.operation : QueryKind → String
  | .offlineByCountryEvent => "find_offline_tickets_by_country_event"
  | .offlineByCountryTag => "find_offline_tickets_by_country_tag"
  | .cheapestAvailableByTag => "find_cheapest_available_by_tag"
  | .onlineByCountryEvent => "find_online_ticket_by_country_event"

/-- How a ticket is sold. -/
inductive Channel where
  | offline
  | online
  deriving Repr, DecidableEq

/-- Whether a ticket type is of a channel. A document without a type is sold offline. -/
def Channel.admits (c : Channel) (ticketType : Option String) : Bool :=
  match c with
  | .offline => ticketType != some onlineTicketType
  | .online => ticketType == some onlineTicketType

/-! ## Pages -/

/-- A page of a list; pages count from one. -/
structure Page where
  number : UInt32
  size : UInt32
  deriving Repr, DecidableEq

namespace Page

/-- The first page of size one: the top of the list. -/
def topOne : Page := ⟨1, 1⟩

/-- How many items come before the page. Page zero starts where page one does. -/
def offset (p : Page) : Nat := (p.number.toNat - 1) * p.size.toNat

theorem offset_lt (p : Page) : p.offset < UInt64.size := by
  have h₁ := p.number.toNat_lt
  have h₂ := p.size.toNat_lt
  calc p.offset ≤ UInt32.size * (UInt32.size - 1) :=
        Nat.mul_le_mul (by simp [UInt32.size]; omega) (by simp [UInt32.size]; omega)
    _ < UInt64.size := by decide

/-- The items of a list that are on the page. -/
def cut {α : Type} (p : Page) (items : List α) : List α :=
  (items.drop p.offset).take p.size.toNat

end Page

/-! ## Filters -/

/-- Which documents are wanted. An identifier that is not set admits every document. -/
structure TicketFilter where
  channel : Channel
  countryCode : Option CountryCode
  eventId : Option EventId
  tag : Option Tag
  availableOnly : Bool
  deriving Repr, DecidableEq

/-- The text of the country code of a document, where both are where they belong. -/
def countryCodeAt? (d : Value) : Option String := (d.get? "country").bind (·.stringAt? "code")

/-- The number of tickets left by a document, where it is a number of signed 64 bits. -/
def remainingAt? (d : Value) : Option Int64 := (d.get? "totalRemaining").bind Value.int64?

namespace TicketFilter

/-- Every document of a channel. -/
def ofChannel (c : Channel) : TicketFilter := ⟨c, none, none, none, false⟩

/-- Whether a document is wanted. Identifiers are compared with the raw texts of the document. -/
def accepts (f : TicketFilter) (d : Value) : Bool :=
  f.channel.admits (d.stringAt? "ticketType") &&
    f.countryCode.all (fun c => countryCodeAt? d == some c.text) &&
    f.eventId.all (fun e => d.stringAt? "eventId" == some e.text) &&
    f.tag.all (fun t => d.stringAt? "tag" == some t.text) &&
    (!f.availableOnly || (remainingAt? d).any (0 < ·))

end TicketFilter

/-! ## Queries -/

/-- One lookup among ticket documents. -/
structure TicketQuery where
  kind : QueryKind
  filter : TicketFilter
  sortByPrice : Bool
  page : Option Page
  deriving Repr, DecidableEq

namespace TicketQuery

/-- The name of the lookup in errors and in the log. -/
def operation (q : TicketQuery) : String := q.kind.operation

/-- The offline tickets of an event in a country, the cheapest first. -/
def offlineByCountryEvent (country : CountryCode) (event : EventId) : TicketQuery where
  kind := .offlineByCountryEvent
  filter := { TicketFilter.ofChannel .offline with countryCode := country, eventId := event }
  sortByPrice := true
  page := none

/-- The offline tickets of a country with a tag, the cheapest first. -/
def offlineByCountryTag (country : CountryCode) (tag : Tag) : TicketQuery where
  kind := .offlineByCountryTag
  filter := { TicketFilter.ofChannel .offline with countryCode := country, tag := tag }
  sortByPrice := true
  page := none

/-- The cheapest offline ticket with a tag of which any are left, in whatever country. -/
def cheapestAvailableByTag (tag : Tag) : TicketQuery where
  kind := .cheapestAvailableByTag
  filter := { TicketFilter.ofChannel .offline with tag := tag, availableOnly := true }
  sortByPrice := true
  page := some .topOne

/-- The online ticket of an event in a country. -/
def onlineByCountryEvent (country : CountryCode) (event : EventId) : TicketQuery where
  kind := .onlineByCountryEvent
  filter := { TicketFilter.ofChannel .online with countryCode := country, eventId := event }
  sortByPrice := false
  page := none

end TicketQuery

end BoxOffice
