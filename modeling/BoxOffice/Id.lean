import BoxOffice.Text.Blank
import BoxOffice.TicketError

/-!
# Identifiers

Tickets, events and countries are named by identifiers, and a tag groups tickets of one kind. An identifier is a
text that is not empty and neither begins nor ends with a blank; `Id.parse` trims what it is given and
refuses what is then empty.
-/

namespace BoxOffice

open BoxOffice.Text

/-- What an identifier names. -/
inductive IdKind where
  | ticket
  | event
  | country
  | tag
  deriving Repr, DecidableEq

/-- The name under which an identifier is given in a document or a request. -/
def IdKind.name : IdKind → String
  | .ticket => "ticketId"
  | .event => "eventId"
  | .country => "countryCode"
  | .tag => "tag"

/-- An identifier: a trimmed text with at least one character. -/
structure Id (kind : IdKind) where
  text : String
  ne_nil : text.toList ≠ []
  trimmed : Trimmed text.toList
  deriving DecidableEq

instance {kind : IdKind} : Repr (Id kind) where
  reprPrec i _ := repr i.text

abbrev TicketId := Id .ticket
abbrev EventId := Id .event
abbrev CountryCode := Id .country
abbrev Tag := Id .tag

namespace Id

variable {kind : IdKind}

theorem ext_text {a b : Id kind} (h : a.text = b.text) : a = b := by
  cases a; cases b; simp_all

/-- The identifier that a text stands for, blanks at its ends aside. -/
def parse (kind : IdKind) (s : String) : Except TicketError (Id kind) :=
  if h : trimChars s.toList = [] then .error (.validation (kind.name ++ " is required"))
  else .ok ⟨trim s, by simpa using h, by simpa using trimmed_trimChars s.toList⟩

/-- The identifier that a stretch of a text stands for. -/
def ofSlice (kind : IdKind) (s : String.Slice) : Except TicketError (Id kind) := parse kind s.copy

/-- The identifier that a text is turned into. -/
def ofString (kind : IdKind) (s : String) : Except TicketError (Id kind) := parse kind s

/-- An identifier that may be missing counts as an empty text then. -/
def parseOption (kind : IdKind) (s : Option String) : Except TicketError (Id kind) :=
  parse kind (s.getD "")

theorem parse_text (a : Id kind) : parse kind a.text = .ok a := by
  have h := trimChars_eq_self a.trimmed
  unfold parse
  rw [dif_neg (by rw [h]; exact a.ne_nil)]
  congr 1
  apply ext_text
  simp [trim, h]

/-- Identifiers are ordered as their texts are. -/
def order (a b : Id kind) : Ordering := compare a.text b.text

end Id

end BoxOffice
