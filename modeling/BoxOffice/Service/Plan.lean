import BoxOffice.Store.Gateway
import BoxOffice.Ticket.Notification

/-!
# Plans

A request is answered by a `Plan`: it asks the store one question after another, each depending on the answers so
far, logs events and announces notifications, and ends in a result or an error.

1. `Plan.run` follows a plan with a store whose answers take time, up to a deadline. An answer that would
   come after the deadline is not waited for: the lookup fails as soon as the deadline has passed.
2. The run keeps what was asked, announced and logged, in order.
3. `Plan.attempt` turns the failure of a plan into a result.
-/

namespace BoxOffice

/-- A notification that is to be sent, with the spans in which that was decided. -/
structure Announcement where
  notification : SwitchNotification
  spans : List Span
  deriving Repr, DecidableEq

/-- What is left to do until a request is answered with an `α`. -/
inductive Plan (α : Type) where
  | done (result : Except TicketError α)
  | many (spans : List Span) (q : TicketQuery)
      (next : StoreResult (Option (List TicketRecord)) → Plan α)
  | one (spans : List Span) (q : TicketQuery) (next : StoreResult (Option TicketRecord) → Plan α)
  | log (e : LogEvent) (next : Plan α)
  | announce (a : Announcement) (next : Plan α)

namespace Plan

variable {α β : Type}

/-- Goes on with the result of a plan, unless it is an error. -/
def bind : Plan α → (α → Plan β) → Plan β
  | done (.ok a), f => f a
  | done (.error e), _ => done (.error e)
  | many spans q next, f => many spans q fun r => (next r).bind f
  | one spans q next, f => one spans q fun r => (next r).bind f
  | log e next, f => log e (next.bind f)
  | announce a next, f => announce a (next.bind f)

instance : Monad Plan where
  pure a := done (.ok a)
  bind := bind

/-- Ends in an error. -/
def fail (e : TicketError) : Plan α := done (.error e)

/-- Logs an event in the given spans. -/
def note (spans : List Span) (e : LogEvent) : Plan Unit := log (e.within spans) (pure ())

/-- Announces a notification. -/
def notify (spans : List Span) (n : SwitchNotification) : Plan Unit :=
  announce ⟨n, spans⟩ (pure ())

/-- A plan whose result tells how the given one ends; it does not fail itself. -/
def attempt : Plan α → Plan (Except TicketError α)
  | done result => done (.ok result)
  | many spans q next => many spans q fun r => (next r).attempt
  | one spans q next => one spans q fun r => (next r).attempt
  | log e next => log e next.attempt
  | announce a next => announce a next.attempt

/-! ## Lookups -/

/-- Goes on with the data of a lookup. Absent data and errors are logged and end the plan. -/
def classify (spans : List Span) (operation absent : String) : StoreResult (Option α) → Plan α
  | .ok (some data) => pure data
  | .ok none => do
    note spans (.of .warn absent [("operation", operation)])
    fail (.notFound absent)
  | .error e => do
    note spans (.of .error "ticket store lookup failed"
      [("operation", operation), ("error", e.text)])
    fail e.toTicketError

/-- Looks up many records; `absent` is the error's text if there is no data. -/
def lookupMany (spans : List Span) (absent : String) (q : TicketQuery) : Plan (List TicketRecord) :=
  many spans q (classify spans q.operation absent)

/-- Looks up one record; `absent` is the error's text if there is no data. -/
def lookupOne (spans : List Span) (absent : String) (q : TicketQuery) : Plan TicketRecord :=
  one spans q (classify spans q.operation absent)

end Plan

/-! ## Running a plan -/

/-- What a caller has of a reply: its outcome and events, and the time at which the caller goes on. -/
structure Arrival (α : Type) where
  outcome : StoreResult (Option α)
  events : List LogEvent
  time : Nat

/-- Waits for a reply, up to a deadline if there is one. A reply that takes no time is never late, nor is
one that comes at the deadline. -/
def Reply.arrive {α : Type} (deadline : Option Nat) (time : Nat) (operation : String) (r : Reply α) :
    Arrival α :=
  match deadline with
  | some d =>
    if 0 < r.delay ∧ d < time + r.delay then ⟨.error (.timeout operation), [], d⟩
    else ⟨r.outcome, r.events, time + r.delay⟩
  | none => ⟨r.outcome, r.events, time + r.delay⟩

/-- What came of a plan: its result, the store, what the store was asked, the announcements, the events, and
the time at the end. -/
structure Run (σ α : Type) where
  result : Except TicketError α
  store : σ
  calls : List TicketQuery
  announcements : List Announcement
  events : List LogEvent
  time : Nat

namespace Run

variable {σ α : Type}

/-- A run that asked one question more before. -/
def after (q : TicketQuery) (events : List LogEvent) (r : Run σ α) : Run σ α :=
  { r with calls := q :: r.calls, events := events ++ r.events }

end Run

/-- Follows a plan from a given time and state of the store on. -/
def Plan.run {σ α : Type} (s : TicketStore σ) (deadline : Option Nat) (time : Nat) (state : σ) :
    Plan α → Run σ α
  | .done result => ⟨result, state, [], [], [], time⟩
  | .many spans q next =>
    let reply := s.many state q
    let arrival := reply.2.arrive deadline time q.operation
    ((next arrival.outcome).run s deadline arrival.time reply.1).after q
      (arrival.events.map (LogEvent.within spans))
  | .one spans q next =>
    let reply := s.one state q
    let arrival := reply.2.arrive deadline time q.operation
    ((next arrival.outcome).run s deadline arrival.time reply.1).after q
      (arrival.events.map (LogEvent.within spans))
  | .log e next =>
    let rest := next.run s deadline time state
    { rest with events := e :: rest.events }
  | .announce a next =>
    let rest := next.run s deadline time state
    { rest with announcements := a :: rest.announcements }

end BoxOffice
