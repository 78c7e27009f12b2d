import BoxOffice.Store.Query

/-!
# Store errors

How a lookup in a store fails, and what the caller of a request is told of it.
-/

namespace BoxOffice

/-- Why a lookup fails: the store could not answer, a document is no record, or the answer came too late.
Each names the operation. -/
inductive StoreError where
  | query (operation message : String)
  | decode (operation message : String)
  | timeout (operation : String)
  deriving Repr, DecidableEq

namespace StoreError

/-- The wording of a store error. -/
def text : StoreError → String
  | .query operation message => operation ++ ": query failed: " ++ message
  | .decode operation message => operation ++ ": cannot decode ticket document: " ++ message
  | .timeout operation => operation ++ ": deadline exceeded"

/-- What a request fails with. Documents that are no records are the program's own fault and are not
described to the caller. -/
def toTicketError : StoreError → TicketError
  | .decode _ _ => .internal "cannot parse ticket data"
  | e => .dependency e.text

end StoreError

/-- The outcome of a lookup. -/
abbrev StoreResult (α : Type) := Except StoreError α

end BoxOffice
