import BoxOffice.Json.Printer
import BoxOffice.TicketError
import BoxOffice.Text.Utf8

/-!
# HTTP responses

What is answered: a status, headers and a body. The kinds of ticket error have different statuses.
-/

namespace BoxOffice.Http

open BoxOffice.Json BoxOffice.Text

/-- An HTTP response. -/
structure Response where
  status : Nat
  headers : List (String × String)
  body : String
  deriving Repr, DecidableEq

namespace Response

/-- The header that tells the size of a body. -/
def sizeHeader (body : String) : String × String := ("content-length", intText (Utf8.size body))

/-- A response without a body. -/
def empty (status : Nat) : Response := ⟨status, [sizeHeader ""], ""⟩

/-- A response with a text. -/
def text (status : Nat) (body : String) : Response :=
  ⟨status, [("content-type", "text/plain; charset=utf-8"), sizeHeader body], body⟩

/-- A response with a JSON value. -/
def json (status : Nat) (v : Value) : Response :=
  ⟨status, [("content-type", "application/json"), sizeHeader v.text], v.text⟩

/-- The response to a request that succeeds. -/
def success (data : Value) (message : String) : Response :=
  json 200 (.object [("data", data), ("message", .string message)])

/-- The status of an error. -/
def statusOf : TicketError → Nat
  | .validation _ => 400
  | .notFound _ => 404
  | .conflict _ => 409
  | .internal _ => 500
  | .dependency _ => 502

/-- The response to a request that fails. -/
def failure (e : TicketError) : Response :=
  json (statusOf e) (.object [("error", .string e.code), ("message", .string e.message)])

/-- The response with a further header. -/
def withHeader (r : Response) (name value : String) : Response :=
  { r with headers := r.headers ++ [(name, value)] }

/-- The response without its body; the headers still tell of it. -/
def withoutBody (r : Response) : Response := { r with body := "" }

/-- The status is one of those that blame the server. -/
def isServerError (r : Response) : Bool := 500 ≤ r.status

end Response

end BoxOffice.Http
