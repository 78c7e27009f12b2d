/-!
# Ticket errors

The five ways in which a request about tickets fails, as callers see them.
-/

namespace BoxOffice

/-- Why a request about tickets fails, with the text meant for the caller. -/
inductive TicketError where
  | validation (message : String)
  | notFound (message : String)
  | internal (message : String)
  | dependency (message : String)
  | conflict (message : String)
  deriving Repr, DecidableEq

namespace TicketError

/-- The text meant for the caller. -/
def message : TicketError → String
  | .validation m | .notFound m | .internal m | .dependency m | .conflict m => m

/-- The stable word for the kind of an error. -/
def code : TicketError → String
  | .validation _ => "validation_error"
  | .notFound _ => "not_found"
  | .internal _ => "internal_error"
  | .dependency _ => "upstream_error"
  | .conflict _ => "conflict"

/-- The text for the log, which names the kind where the message does not speak for itself. -/
def text : TicketError → String
  | .validation m => "validation failed: " ++ m
  | .notFound m => m
  | .internal m => "internal error: " ++ m
  | .dependency m => "upstream failure: " ++ m
  | .conflict m => m

end TicketError

end BoxOffice
