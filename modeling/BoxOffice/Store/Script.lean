import BoxOffice.Store.Gateway

/-!
# Scripted stores

A store whose answers are written down beforehand: each kind of query has a list of answers, taken one after
another, of which the last is repeated.
-/

namespace BoxOffice

/-- An answer written down beforehand, with the milliseconds it takes. -/
structure ScriptedAnswer where
  outcome : StoreResult (Option (List TicketRecord))
  delay : Nat

/-- The answers that are still to come, for each kind of query. -/
structure ScriptedStore where
  answers : QueryKind → List ScriptedAnswer

namespace ScriptedStore

/-- The answers after the first was given. The last one stays. -/
def advance : List ScriptedAnswer → List ScriptedAnswer
  | _ :: a :: rest => a :: rest
  | answers => answers

/-- The store after it answered a query. -/
def next (s : ScriptedStore) (q : TicketQuery) : ScriptedStore where
  answers kind := if kind = q.kind then advance (s.answers kind) else s.answers kind

/-- The next answer to a query for many records; without one, an empty list. -/
def many (s : ScriptedStore) (q : TicketQuery) : Reply (List TicketRecord) :=
  match (s.answers q.kind).head? with
  | some a => ⟨a.outcome, a.delay, []⟩
  | none => .now (.ok (some []))

/-- The next answer to a query for one record: the first of the records, if there are any. -/
def one (s : ScriptedStore) (q : TicketQuery) : Reply TicketRecord :=
  match (s.answers q.kind).head? with
  | some a => ⟨a.outcome.map fun records => records.bind List.head?, a.delay, []⟩
  | none => .now (.ok none)

/-- A store that answers as it is written. -/
def store : TicketStore ScriptedStore where
  many s q := (s.next q, s.many q)
  one s q := (s.next q, s.one q)

end ScriptedStore

end BoxOffice
