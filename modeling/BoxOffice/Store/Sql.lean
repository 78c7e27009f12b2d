import BoxOffice.Store.Query
import BoxOffice.Text.Numeral

/-!
# Queries as SQL

1. A `Select` is a query in the terms of the database: conditions on a document, the order, and a limit.
2. It is written as pieces of text and bound values (`Select.pieces`). Data stands in bound values only.
3. `Statement.ofPieces` puts the text together, with the number of each bound value in its place.
-/

namespace BoxOffice

open BoxOffice.Text

/-! ## Statements -/

/-- A value bound to a place of a statement. -/
inductive SqlValue where
  | text (s : String)
  | bigint (n : Int64)
  deriving Repr, DecidableEq

/-- A piece of a statement: text, or a place with the value bound to it. -/
inductive SqlPiece where
  | text (s : String)
  | bound (v : SqlValue)
  deriving Repr, DecidableEq

/-- A statement as the database gets it. -/
structure Statement where
  sql : String
  binds : List SqlValue
  deriving Repr, DecidableEq

namespace SqlPiece

/-- The text of pieces whose places are numbered from `k`. -/
def chars (k : Nat) : List SqlPiece → List Char
  | [] => []
  | .text s :: rest => s.toList ++ chars k rest
  | .bound _ :: rest => '$' :: natDigits k ++ chars (k + 1) rest

/-- The value of a place. -/
def value? : SqlPiece → Option SqlValue
  | .text _ => none
  | .bound v => some v

end SqlPiece

/-- The statement of a list of pieces. Places are numbered from one. -/
def Statement.ofPieces (ps : List SqlPiece) : Statement :=
  ⟨String.ofList (SqlPiece.chars 1 ps), ps.filterMap SqlPiece.value?⟩

/-! ## Selects -/

/-- What a document is asked for. -/
inductive Condition where
  | soldOffline
  | soldOnline
  | inCountry (code : CountryCode)
  | atEvent (event : EventId)
  | tagged (tag : Tag)
  | inStock
  deriving Repr, DecidableEq

/-- How many rows are wanted: all, the first, or those of a page. -/
inductive RowLimit where
  | all
  | first
  | page (size offset : Int64)
  deriving Repr, DecidableEq

/-- A query in the terms of the database. -/
structure Select where
  conditions : List Condition
  byPrice : Bool
  limit : RowLimit
  deriving Repr, DecidableEq

/-- A condition as SQL. -/
def Condition.pieces : Condition → List SqlPiece
  | .soldOffline =>
    [.text "COALESCE(document->>'ticketType', '') <> ", .bound (.text onlineTicketType)]
  | .soldOnline => [.text "document->>'ticketType' = ", .bound (.text onlineTicketType)]
  | .inCountry code => [.text "document->'country'->>'code' = ", .bound (.text code.text)]
  | .atEvent event => [.text "document->>'eventId' = ", .bound (.text event.text)]
  | .tagged tag => [.text "document->>'tag' = ", .bound (.text tag.text)]
  | .inStock => [.text "(document->>'totalRemaining')::bigint > 0"]

/-- A limit as SQL. -/
def RowLimit.pieces : RowLimit → List SqlPiece
  | .all => []
  | .first => [.text " LIMIT 1"]
  | .page size offset =>
    [.text " LIMIT ", .bound (.bigint size), .text " OFFSET ", .bound (.bigint offset)]

namespace Select

/-- A select as SQL. -/
def pieces (s : Select) : List SqlPiece :=
  [.text "SELECT document FROM ticket_detail WHERE "] ++
    [SqlPiece.text " AND "].intercalate (s.conditions.map Condition.pieces) ++
    (if s.byPrice then [.text " ORDER BY (document->>'ticketPrice')::bigint ASC, id ASC"] else []) ++
    s.limit.pieces

/-- The statement of a select. -/
def statement (s : Select) : Statement := .ofPieces s.pieces

end Select

/-! ## The select of a query -/

/-- The condition on the channel. -/
def Channel.condition : Channel → Condition
  | .offline => .soldOffline
  | .online => .soldOnline

/-- The conditions of a filter. -/
def TicketFilter.conditions (f : TicketFilter) : List Condition :=
  [f.channel.condition] ++
    (f.countryCode.map Condition.inCountry).toList ++
    (f.eventId.map Condition.atEvent).toList ++
    (f.tag.map Condition.tagged).toList ++
    (if f.availableOnly then [.inStock] else [])

/-- The offset of a page as the database takes it: the greatest one it knows stands for any beyond it. -/
def Page.boundedOffset (p : Page) : Int64 := Int64.ofNat (min p.offset Int64.maxValue.toInt.toNat)

/-- The limit of a query, asked for one row or for all. A page says how many rows are wanted by itself. -/
def TicketQuery.limit (q : TicketQuery) (single : Bool) : RowLimit :=
  match q.page with
  | some page => .page (Int64.ofNat page.size.toNat) page.boundedOffset
  | none => if single then .first else .all

/-- A query in the terms of the database. -/
def TicketQuery.toSelect (q : TicketQuery) (single : Bool) : Select :=
  ⟨q.filter.conditions, q.sortByPrice, q.limit single⟩

end BoxOffice
