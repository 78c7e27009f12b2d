import BoxOffice.Decode

/-!
# Ticket records

A `TicketRecord` is one type of ticket of an event in a country, with its price and stock. The continent's two
fields lie flat among those of the record in a document.
-/

namespace BoxOffice

open BoxOffice.Json BoxOffice.Time

/-- The continent of a venue. -/
structure Continent where
  name : String
  code : String
  deriving Repr, DecidableEq

/-- The country of a venue, with the place in it. -/
structure Country where
  name : String
  code : CountryCode
  city : String
  place : String
  deriving Repr, DecidableEq

/-- One type of ticket of an event in a country. -/
structure TicketRecord where
  ticketId : TicketId
  eventId : EventId
  ticketType : String
  price : Int64
  totalQuota : Int64
  totalRemaining : Int64
  continent : Continent
  country : Country
  tag : Tag
  createdAt : Option Timestamp
  updatedAt : Option Timestamp
  deriving DecidableEq

/-- The type of the one ticket of an event in a country that is sold online. -/
def onlineTicketType : String := "Online"

namespace TicketRecord

/-- No ticket is left. -/
def isSold (r : TicketRecord) : Bool := r.totalRemaining == 0

/-- The ticket is the one sold online. -/
def isOnline (r : TicketRecord) : Bool := r.ticketType == onlineTicketType

end TicketRecord

/-! ## Decoding -/

/-- The fields of a continent. -/
def Continent.schema : List Field := [
  .needed "continentName" Node.text,
  .needed "continentCode" Node.text]

/-- The continent whose fields were found. -/
def Continent.ofFields (found : Fields) : Decoded Continent := do
  return {
    name := ← found.get "continentName" Node.text
    code := ← found.get "continentCode" Node.text }

/-- Decodes a continent. -/
def Continent.decode (n : Node) : Decoded Continent := do
  Continent.ofFields (← n.fields "Continent" schema)

/-- The fields of a country. -/
def Country.schema : List Field := [
  .needed "name" Node.text,
  .needed "code" (Node.id .country),
  .optional "city" Node.text,
  .optional "place" Node.text]

/-- Decodes a country. -/
def Country.decode (n : Node) : Decoded Country := do
  let found ← n.fields "Country" schema
  return {
    name := ← found.get "name" Node.text
    code := ← found.get "code" (Node.id .country)
    city := ← found.getD "city" Node.text ""
    place := ← found.getD "place" Node.text "" }

/-- The fields of a record that are its own, the continent's aside. -/
def TicketRecord.schema : List Field := [
  .needed "ticketId" (Node.id .ticket),
  .needed "eventId" (Node.id .event),
  .needed "ticketType" Node.text,
  .needed "ticketPrice" Node.int64,
  .needed "totalQuota" Node.int64,
  .needed "totalRemaining" Node.int64,
  .needed "country" Country.decode,
  .needed "tag" (Node.id .tag),
  .optional "createdAt" (Node.optional Node.timestamp),
  .optional "updatedAt" (Node.optional Node.timestamp)]

/-- Decodes a record. Members that are no fields of its own are read as well, and kept aside; the continent's
fields among them are looked at once all the others are known to be there. -/
def TicketRecord.decode : Node → Decoded TicketRecord
  | .object members stop => do
    let found ← gatherMembers schema (fun n => ofFault (n.value.map fun _ => ())) [] members
    ofFault stop.careful
    found.checkPresent schema
    let aside ← gatherMembers Continent.schema (fun _ => .ok ()) [] members
    aside.checkPresent Continent.schema
    let continent ← Continent.ofFields aside
    return {
      ticketId := ← found.get "ticketId" (Node.id .ticket)
      eventId := ← found.get "eventId" (Node.id .event)
      ticketType := ← found.get "ticketType" Node.text
      price := ← found.get "ticketPrice" Node.int64
      totalQuota := ← found.get "totalQuota" Node.int64
      totalRemaining := ← found.get "totalRemaining" Node.int64
      continent
      country := ← found.get "country" Country.decode
      tag := ← found.get "tag" (Node.id .tag)
      createdAt := ← found.getD "createdAt" (Node.optional Node.timestamp) none
      updatedAt := ← found.getD "updatedAt" (Node.optional Node.timestamp) none }
  | .tooDeep (.object _ _) => .error (.fault .tooDeep)
  | n => .error (n.mismatch (.record "TicketRecord"))

/-- Decodes a document as a record. -/
def TicketRecord.ofValue (v : Value) : Decoded TicketRecord := decode (.ofValue v)

/-! ## Encoding -/

/-- The members of a continent. -/
def Continent.members (c : Continent) : List (String × Value) := [
  ("continentName", .string c.name),
  ("continentCode", .string c.code)]

/-- A continent as a JSON object. -/
def Continent.toValue (c : Continent) : Value := .object c.members

/-- A country as a JSON object. -/
def Country.toValue (c : Country) : Value := .object [
  ("name", .string c.name),
  ("code", .string c.code.text),
  ("city", .string c.city),
  ("place", .string c.place)]

/-- A moment that may be missing. -/
def timestampValue (t : Option Timestamp) : Value := Value.optionalString (t.map Timestamp.text)

/-- A record as a JSON object, its members in the order of declaration. -/
def TicketRecord.toValue (r : TicketRecord) : Value := .object ([
  ("ticketId", .string r.ticketId.text),
  ("eventId", .string r.eventId.text),
  ("ticketType", .string r.ticketType),
  ("ticketPrice", .int64 r.price),
  ("totalQuota", .int64 r.totalQuota),
  ("totalRemaining", .int64 r.totalRemaining)] ++
  r.continent.members ++ [
  ("country", r.country.toValue),
  ("tag", .string r.tag.text),
  ("createdAt", timestampValue r.createdAt),
  ("updatedAt", timestampValue r.updatedAt)])

end BoxOffice
