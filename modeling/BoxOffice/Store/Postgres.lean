import BoxOffice.Store.Memory
import BoxOffice.Store.Sql

/-!
# The store in a database

A store that asks a database for rows and reads a document from each. The database is given by its state and
by what it answers in a state.
-/

namespace BoxOffice

open BoxOffice.Json

/-- A row: the JSON text of its document, or nothing where the column is null. -/
abbrev Row := Option String

/-- A database with states `ρ`: it answers a statement with rows, and carries out a text of statements;
either may fail with the text of an error. -/
structure Database (ρ : Type) where
  ask : ρ → Statement → ρ × Except String (List Row)
  execute : ρ → String → ρ × Except String Unit

/-- Creates the table of documents and its indexes where they are missing. -/
def schemaText : String :=
  "-- Ticket catalog documents (one row per ticket type per country/event).\n" ++
  "CREATE TABLE IF NOT EXISTS ticket_detail (\n" ++
  "    id BIGSERIAL PRIMARY KEY,\n" ++
  "    document JSONB NOT NULL\n" ++
  ");\n" ++
  "\n" ++
  "CREATE INDEX IF NOT EXISTS ticket_detail_country_event_idx\n" ++
  "    ON ticket_detail ((document->'country'->>'code'), (document->>'eventId'));\n" ++
  "\n" ++
  "CREATE INDEX IF NOT EXISTS ticket_detail_tag_price_idx\n" ++
  "    ON ticket_detail ((document->>'tag'), ((document->>'ticketPrice')::bigint));\n"

/-! ## Rows -/

/-- What is said of an error of the database. -/
def databaseError (message : String) : String := "error returned from database: " ++ message

/-- What is said of a document column that cannot be read. -/
def columnError (message : String) : String :=
  "error occurred while decoding column \"document\": " ++ message

namespace TicketQuery

/-- The document of a row, for a query. -/
def document (q : TicketQuery) : Row → StoreResult Value
  | none =>
    .error (.decode q.operation (columnError "unexpected null; try decoding as an `Option`"))
  | some text =>
    (Value.ofText text).mapError fun fault => .decode q.operation (columnError fault.message)

/-- The record of a row, for a query. -/
def rowRecord (q : TicketQuery) (row : Row) : StoreResult TicketRecord := do
  q.record (← q.document row)

/-- The rows that the database answers a query with. -/
def rows (q : TicketQuery) (answer : Except String (List Row)) : StoreResult (List Row) :=
  answer.mapError fun message => .query q.operation (databaseError message)

/-- The records of the rows. -/
def manyOf (q : TicketQuery) (answer : Except String (List Row)) :
    StoreResult (Option (List TicketRecord)) := do
  let rows ← q.rows answer
  let records ← rows.mapM q.rowRecord
  return some records

/-- The record of the first row. -/
def oneOf (q : TicketQuery) (answer : Except String (List Row)) :
    StoreResult (Option TicketRecord) := do
  let rows ← q.rows answer
  match rows.head? with
  | some row => return some (← q.rowRecord row)
  | none => return none

end TicketQuery

/-! ## The store -/

namespace Database

variable {ρ : Type}

/-- An answer that comes at once. A failure is logged in a span of its own. -/
def reply {α : Type} (task : String) (q : TicketQuery) (outcome : StoreResult (Option α)) : Reply α :=
  match outcome with
  | .ok data => .now (.ok data)
  | .error e =>
    ⟨.error e, 0, [(LogEvent.failure e.text).within [⟨task, [("operation", q.operation)]⟩]]⟩

/-- Creates the table of documents. -/
def ensureSchema (db : Database ρ) (s : ρ) : ρ × Except String Unit := db.execute s schemaText

/-- The store of the documents in a database. -/
def store (db : Database ρ) : TicketStore ρ where
  many s q :=
    let (s, answer) := db.ask s (q.toSelect false).statement
    (s, reply "find_many" q (q.manyOf answer))
  one s q :=
    let (s, answer) := db.ask s (q.toSelect true).statement
    (s, reply "find_one" q (q.oneOf answer))

end Database

/-! ## Scripted databases -/

/-- What a database was asked: a statement, or to carry out a text. -/
inductive Asked where
  | statement (s : Statement)
  | simple (text : String)
  deriving Repr, DecidableEq

/-- A database whose answers are written down beforehand; it keeps what it was asked. -/
structure ScriptedDatabase where
  answers : List (Except String (List Row))
  asked : List Asked

namespace ScriptedDatabase

/-- Gives the next answer to a statement, or no rows when all were given, and carries out any text. -/
def database : Database ScriptedDatabase where
  ask s statement :=
    (⟨s.answers.drop 1, s.asked ++ [.statement statement]⟩, s.answers.head?.getD (.ok []))
  execute s text := ({ s with asked := s.asked ++ [.simple text] }, .ok ())

end ScriptedDatabase

end BoxOffice
