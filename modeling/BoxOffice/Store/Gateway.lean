import BoxOffice.Log
import BoxOffice.Store.Error

/-!
# Stores

A store answers queries and may change as it does. It is given by its state and by what it answers in a
state, so that a statement about every store holds for any behaviour whatever.
-/

namespace BoxOffice

/-- What a store answers: nothing (`none`), data, or an error; how many milliseconds the answer takes; and
what the store logs. -/
structure Reply (α : Type) where
  outcome : StoreResult (Option α)
  delay : Nat
  events : List LogEvent

/-- An answer that comes at once. -/
def Reply.now {α : Type} (outcome : StoreResult (Option α)) : Reply α := ⟨outcome, 0, []⟩

/-- A store with states `σ`: how it answers a query for many records, and a query for one. -/
structure TicketStore (σ : Type) where
  many : σ → TicketQuery → σ × Reply (List TicketRecord)
  one : σ → TicketQuery → σ × Reply TicketRecord

end BoxOffice
