import BoxOffice.Ticket.Policy

/-!
# Ticket views

What a buyer is shown of a record, of a suggestion, and of all tickets of a country.
-/

namespace BoxOffice

open BoxOffice.Json BoxOffice.Text

/-- A price as buyers see it. -/
def formatPrice (price : Int64) : String := String.ofList ('$' :: intChars price.toInt)

/-- What a buyer is shown of a ticket. -/
structure TicketView where
  ticketType : String
  ticketPrice : String
  continentName : String
  continentCode : String
  countryName : String
  countryCode : String
  isSold : Bool
  deriving Repr, DecidableEq

/-- What a buyer is shown of a discounted ticket that is suggested instead. -/
structure SuggestionView where
  ticketType : String
  normalTicketPrice : String
  discountTicketPrice : String
  discount : String
  continentName : String
  continentCode : String
  countryName : String
  countryCode : String
  isSold : Bool
  deriving Repr, DecidableEq

/-- What a buyer is shown of the tickets of a country: the tickets, and suggestions if they are exhausted. -/
structure TicketListing where
  tickets : List TicketView
  suggestions : List SuggestionView
  deriving Repr, DecidableEq

/-- The view of a record. -/
def TicketView.ofRecord (r : TicketRecord) : TicketView where
  ticketType := r.ticketType
  ticketPrice := formatPrice r.price
  continentName := r.continent.name
  continentCode := r.continent.code
  countryName := r.country.name
  countryCode := r.country.code.text
  isSold := r.isSold

/-- The view of a record as a suggestion. -/
def SuggestionView.ofRecord (p : AvailabilityPolicy) (r : TicketRecord) : SuggestionView where
  ticketType := r.ticketType
  normalTicketPrice := formatPrice r.price
  discountTicketPrice := formatPrice (p.discountedPrice r.price)
  discount := p.discountLabel
  continentName := r.continent.name
  continentCode := r.continent.code
  countryName := r.country.name
  countryCode := r.country.code.text
  isSold := r.isSold

/-! ## Encoding -/

/-- A view as a JSON object. -/
def TicketView.toValue (v : TicketView) : Value := .object [
  ("ticketType", .string v.ticketType),
  ("ticketPrice", .string v.ticketPrice),
  ("continentName", .string v.continentName),
  ("continentCode", .string v.continentCode),
  ("countryName", .string v.countryName),
  ("countryCode", .string v.countryCode),
  ("isSold", .bool v.isSold)]

/-- A suggestion as a JSON object. -/
def SuggestionView.toValue (v : SuggestionView) : Value := .object [
  ("ticketType", .string v.ticketType),
  ("normalTicketPrice", .string v.normalTicketPrice),
  ("discountTicketPrice", .string v.discountTicketPrice),
  ("discount", .string v.discount),
  ("continentName", .string v.continentName),
  ("continentCode", .string v.continentCode),
  ("countryName", .string v.countryName),
  ("countryCode", .string v.countryCode),
  ("isSold", .bool v.isSold)]

/-- A listing as a JSON object. -/
def TicketListing.toValue (l : TicketListing) : Value := .object [
  ("tickets", .array (l.tickets.map TicketView.toValue)),
  ("suggestion", .array (l.suggestions.map SuggestionView.toValue))]

/-! ## Decoding -/

/-- The fields of a view. -/
def TicketView.schema : List Field := [
  .needed "ticketType" Node.text,
  .needed "ticketPrice" Node.text,
  .needed "continentName" Node.text,
  .needed "continentCode" Node.text,
  .needed "countryName" Node.text,
  .needed "countryCode" Node.text,
  .needed "isSold" Node.boolean]

/-- Decodes a view. -/
def TicketView.decode (n : Node) : Decoded TicketView := do
  let found ← n.fields "TicketView" schema
  return {
    ticketType := ← found.get "ticketType" Node.text
    ticketPrice := ← found.get "ticketPrice" Node.text
    continentName := ← found.get "continentName" Node.text
    continentCode := ← found.get "continentCode" Node.text
    countryName := ← found.get "countryName" Node.text
    countryCode := ← found.get "countryCode" Node.text
    isSold := ← found.get "isSold" Node.boolean }

/-- The fields of a suggestion. -/
def SuggestionView.schema : List Field := [
  .needed "ticketType" Node.text,
  .needed "normalTicketPrice" Node.text,
  .needed "discountTicketPrice" Node.text,
  .needed "discount" Node.text,
  .needed "continentName" Node.text,
  .needed "continentCode" Node.text,
  .needed "countryName" Node.text,
  .needed "countryCode" Node.text,
  .needed "isSold" Node.boolean]

/-- Decodes a suggestion. -/
def SuggestionView.decode (n : Node) : Decoded SuggestionView := do
  let found ← n.fields "SuggestionView" schema
  return {
    ticketType := ← found.get "ticketType" Node.text
    normalTicketPrice := ← found.get "normalTicketPrice" Node.text
    discountTicketPrice := ← found.get "discountTicketPrice" Node.text
    discount := ← found.get "discount" Node.text
    continentName := ← found.get "continentName" Node.text
    continentCode := ← found.get "continentCode" Node.text
    countryName := ← found.get "countryName" Node.text
    countryCode := ← found.get "countryCode" Node.text
    isSold := ← found.get "isSold" Node.boolean }

/-- The fields of a listing. -/
def TicketListing.schema : List Field := [
  .needed "tickets" (Node.items TicketView.decode),
  .needed "suggestion" (Node.items SuggestionView.decode)]

/-- Decodes a listing. -/
def TicketListing.decode (n : Node) : Decoded TicketListing := do
  let found ← n.fields "TicketListing" schema
  return {
    tickets := ← found.get "tickets" (Node.items TicketView.decode)
    suggestions := ← found.get "suggestion" (Node.items SuggestionView.decode) }

end BoxOffice
