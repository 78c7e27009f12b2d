import BoxOffice.Decode

/-!
# Availability requests

A request asks for the tickets of an event in a country.
-/

namespace BoxOffice

open BoxOffice.Json

/-- Asks for the tickets of an event in a country. -/
structure AvailabilityRequest where
  countryCode : CountryCode
  eventId : EventId
  deriving Repr, DecidableEq

namespace AvailabilityRequest

/-- The request of two texts that may be missing. The country is looked at first. -/
def parse (countryCode eventId : Option String) : Except TicketError AvailabilityRequest := do
  let countryCode ← Id.parseOption .country countryCode
  let eventId ← Id.parseOption .event eventId
  return { countryCode, eventId }

/-- A request as a JSON object. -/
def toValue (r : AvailabilityRequest) : Value := .object [
  ("countryCode", .string r.countryCode.text),
  ("eventId", .string r.eventId.text)]

/-- The fields of a request. -/
def schema : List Field := [
  .needed "countryCode" (Node.id .country),
  .needed "eventId" (Node.id .event)]

/-- Decodes a request. -/
def decode (n : Node) : Decoded AvailabilityRequest := do
  let found ← n.fields "AvailabilityRequest" schema
  return {
    countryCode := ← found.get "countryCode" (Node.id .country)
    eventId := ← found.get "eventId" (Node.id .event) }

end AvailabilityRequest

end BoxOffice
