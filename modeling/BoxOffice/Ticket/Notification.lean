import BoxOffice.Decode
import BoxOffice.Json.Printer

/-!
# Switch notifications

When the offline tickets of a country are exhausted, the sellers of the online ticket are told to switch
on: a `SwitchNotification` names the tag and the country.
-/

namespace BoxOffice

open BoxOffice.Json BoxOffice.Text

/-- Tells that the tickets of a tag are exhausted in a country. -/
structure SwitchNotification where
  tag : Tag
  countryCode : CountryCode
  deriving Repr, DecidableEq

/-- The topic of switch notifications, unless another one is configured. -/
def standardTopic : String := "concert-update-online-bank-ticket"

namespace SwitchNotification

/-- A notification as a JSON object. -/
def toValue (n : SwitchNotification) : Value := .object [
  ("tag", .string n.tag.text),
  ("countryCode", .string n.countryCode.text)]

/-- The payload of the message that carries a notification. -/
def payload (n : SwitchNotification) : String := n.toValue.text

/-- A notification as the log shows it. -/
def logText (n : SwitchNotification) : String :=
  "SwitchNotification \x7b tag: Tag(" ++ quoted n.tag.text ++ "), country_code: CountryCode(" ++
    quoted n.countryCode.text ++ ") \x7d"

/-- The fields of a notification. -/
def schema : List Field := [
  .needed "tag" (Node.id .tag),
  .needed "countryCode" (Node.id .country)]

/-- Decodes a notification. -/
def decode (n : Node) : Decoded SwitchNotification := do
  let found ← n.fields "SwitchNotification" schema
  return {
    tag := ← found.get "tag" (Node.id .tag)
    countryCode := ← found.get "countryCode" (Node.id .country) }

end SwitchNotification

end BoxOffice
