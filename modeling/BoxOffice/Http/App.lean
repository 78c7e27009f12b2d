import BoxOffice.Http.Form
import BoxOffice.Http.Request
import BoxOffice.Http.Response
import BoxOffice.Service.Availability

/-!
# The application

1. `Endpoint.ofPath?` tells what a path leads to.
2. `App.handle` is the plan that answers a request. It always ends in a response.
3. Every response but that of the health check carries an identifier: the one that the caller gives to the
   request, or a fresh one.
-/

namespace BoxOffice.Http

open BoxOffice.Json

/-! ## Parameters -/

/-- The parameters of a question about tickets; each may be missing. -/
structure Params where
  countryCode : Option String
  eventId : Option String
  deriving Repr, DecidableEq

namespace Params

/-- Adds a pair of a query string. A parameter may be given once; other names are ignored. The error is the
name of the parameter. -/
def add (p : Params) (pair : String × String) : Except String Params :=
  if pair.1 = "countryCode" then
    if p.countryCode.isSome then .error pair.1 else .ok { p with countryCode := some pair.2 }
  else if pair.1 = "eventId" then
    if p.eventId.isSome then .error pair.1 else .ok { p with eventId := some pair.2 }
  else .ok p

/-- The parameters in a query string, or the name of the first that is given again. -/
def ofQuery (query : Option String) : Except String Params :=
  (Form.decode (query.getD "")).foldlM add ⟨none, none⟩

/-- The request that the parameters make. -/
def toRequest (p : Params) : Except TicketError AvailabilityRequest :=
  AvailabilityRequest.parse p.countryCode p.eventId

end Params

/-- What is said of a parameter that is given twice. -/
def duplicateMessage (name : String) : String :=
  "Failed to deserialize query string: duplicate field `" ++ name ++ "`"

/-! ## Endpoints -/

/-- What a path leads to. -/
inductive Endpoint where
  | health
  | listing
  | online
  deriving Repr, DecidableEq

/-- The endpoint of a path, which has to match exactly. -/
def Endpoint.ofPath? (path : String) : Option Endpoint :=
  if path = "/health" then some .health
  else if path = "/api/tickets/v1/list" then some .listing
  else if path = "/api/tickets/v1/online" then some .online
  else none

/-! ## Handling -/

/-- The application: the service, and the milliseconds that a request may take. -/
structure App where
  service : TicketService
  timeout : Nat
  deriving Repr, DecidableEq

namespace App

/-- The response to the result of a plan. An error that blames the server is logged. -/
def conclude {α : Type} (message : String) (toValue : α → Value) :
    Except TicketError α → Plan Response
  | .ok a => pure (.success (toValue a) message)
  | .error e => do
    let response := Response.failure e
    if response.isServerError then
      Plan.note [] (.of .error "ticket request failed" [("error", e.text)])
    return response

/-- Answers a question about tickets with a plan for the request that its parameters make. -/
def ask {α : Type} (query : Option String) (message : String) (toValue : α → Value)
    (plan : AvailabilityRequest → Plan α) : Plan Response :=
  match Params.ofQuery query with
  | .error name => pure (.text 400 (duplicateMessage name))
  | .ok params =>
    match params.toRequest with
    | .error e => conclude message toValue (.error e)
    | .ok request => do conclude message toValue (← (plan request).attempt)

/-- Answers a request to an endpoint that was made with the method it is for. -/
def serve (app : App) (id : Uuid) (query : Option String) : Endpoint → Plan Response
  | .health => pure (.empty 200)
  | .listing => ask query "Get ticket success" TicketListing.toValue (app.service.resolve id)
  | .online =>
    ask query "Get online ticket success" TicketView.toValue (app.service.decideOnline id)

/-- The response where the method is not one that the endpoint is for. -/
def methodNotAllowed : Response := (Response.empty 405).withHeader "allow" "GET,HEAD"

/-- Answers a request to an endpoint. A request for the head is answered like one for the whole, without the
body. -/
def route (app : App) (id : Uuid) (r : Request) (endpoint : Endpoint) : Plan Response :=
  if r.method = "GET" then app.serve id r.target.query endpoint
  else if r.method = "HEAD" then do
    return (← app.serve id r.target.query endpoint).withoutBody
  else pure methodNotAllowed

/-- The identifier of a request: the caller's, or a fresh one. -/
def requestId (fresh : Uuid) (r : Request) : Uuid := r.requestId?.getD fresh

/-- Puts the identifier of a request into its response. -/
def withRequestId (id : Uuid) (r : Response) : Response := r.withHeader "x-request-id" id.text

/-- Answers a request, for which a fresh identifier is at hand. -/
def handle (app : App) (fresh : Uuid) (r : Request) : Plan Response :=
  let id := requestId fresh r
  match Endpoint.ofPath? r.target.path with
  | some .health => app.route id r .health
  | some endpoint => do return withRequestId id (← app.route id r endpoint)
  | none => pure (withRequestId id (.empty 404))

/-- What an HTTP request leads to, under the application's timeout. -/
def respond {σ π : Type} (app : App) (store : TicketStore σ) (publisher : Publisher π)
    (state : σ × π) (fresh : Uuid) (r : Request) : Performance σ π Response :=
  app.service.perform store publisher (some app.timeout) state (app.handle fresh r)

end App

end BoxOffice.Http
