import BoxOffice.Proofs.Service.Stages

/-!
# The trail of a step

The log of a step has events of its own, and events of the store and the publisher, which may log whatever they
like. In the trail each entry is marked with where it comes from.

1. `Plan.trail` has a `Mark` for each question and each event of a run, in the order in which they come, and
   `Notifier.trail` one for each message and each event of the sending.
2. Without the marks, the trail is the log (`filterMap_event?_trail`), the questions (`filterMap_query?_trail`) and
   what became of the messages (`filterMap_delivery?_trail`).
3. Plans leave their trails one after the other (`Plan.trail_bind`).
-/

namespace BoxOffice

variable {σ π α β : Type}

/-! ## Marks -/

/-- An entry of a trail: a question to the store, a message that the publisher takes and what becomes of it, an event
that the store or the publisher logs meanwhile, or one that the step logs itself. -/
inductive Mark where
  | asked (q : TicketQuery)
  | handed (m : Message) (outcome : Except PublishError Unit)
  | overheard (e : LogEvent)
  | logged (e : LogEvent)

namespace Mark

/-- The event of an entry, whoever logged it. -/
def event? : Mark → Option LogEvent
  | overheard e | logged e => some e
  | asked _ | handed _ _ => none

/-- The event of an entry that the step logged itself. -/
def ownEvent? : Mark → Option LogEvent
  | logged e => some e
  | asked _ | handed _ _ | overheard _ => none

/-- The question of an entry. -/
def query? : Mark → Option TicketQuery
  | asked q => some q
  | handed _ _ | overheard _ | logged _ => none

/-- The message of an entry, and what became of it. -/
def delivery? : Mark → Option (Message × Except PublishError Unit)
  | handed m outcome => some (m, outcome)
  | asked _ | overheard _ | logged _ => none

end Mark

/-- What a step logged itself. -/
def ownEvents (trail : List Mark) : List LogEvent := trail.filterMap Mark.ownEvent?

/-- What is overheard while a question or a message is waited for. -/
def overhear (spans : List Span) (events : List LogEvent) : List Mark :=
  events.map fun e => .overheard (e.within spans)

section Overhear

variable (spans : List Span) (events : List LogEvent)

@[simp] theorem filterMap_event?_overhear :
    (overhear spans events).filterMap Mark.event? = events.map (LogEvent.within spans) := by
  rw [overhear, List.filterMap_map]
  exact List.filterMap_eq_map (f := LogEvent.within spans) ▸ rfl

@[simp] theorem ownEvents_overhear : ownEvents (overhear spans events) = [] := by
  simp [ownEvents, overhear, Mark.ownEvent?]

@[simp] theorem filterMap_query?_overhear : (overhear spans events).filterMap Mark.query? = [] := by
  simp [overhear, Mark.query?]

@[simp] theorem filterMap_delivery?_overhear : (overhear spans events).filterMap Mark.delivery? = [] := by
  simp [overhear, Mark.delivery?]

end Overhear

/-! ## Trails -/

/-- The trail of a run from a given time and state of the store on. What is announced is sent later. -/
def Plan.trail (s : TicketStore σ) (deadline : Option Nat) (time : Nat) (state : σ) : Plan α → List Mark
  | .done _ => []
  | .many spans q next =>
    let reply := s.many state q
    let arrival := reply.2.arrive deadline time q.operation
    .asked q :: overhear spans arrival.events ++ (next arrival.outcome).trail s deadline arrival.time reply.1
  | .one spans q next =>
    let reply := s.one state q
    let arrival := reply.2.arrive deadline time q.operation
    .asked q :: overhear spans arrival.events ++ (next arrival.outcome).trail s deadline arrival.time reply.1
  | .log e next => .logged e :: next.trail s deadline time state
  | .announce _ next => next.trail s deadline time state

/-- The trail of the sending. -/
def Notifier.trail (n : Notifier) (p : Publisher π) (state : π) : List Announcement → List Mark
  | [] => []
  | a :: rest =>
    let m := n.message a.notification
    let spans := a.spans ++ [n.span a.notification]
    let receipt := (p.publish state m).2
    .handed m receipt.outcome :: overhear spans receipt.events ++
      .logged ((report receipt.outcome).within spans) :: n.trail p (p.publish state m).1 rest

/-- The trail of a performance. -/
def TicketService.trail (s : TicketService) (store : TicketStore σ) (publisher : Publisher π)
    (deadline : Option Nat) (state : σ × π) (plan : Plan α) : List Mark :=
  plan.trail store deadline 0 state.1 ++
    s.notifier.trail publisher state.2 (plan.run store deadline 0 state.1).announcements

/-- What becomes of messages that a publisher takes one after the other. -/
def Publisher.deliveries (p : Publisher π) (state : π) : List Message → List (Message × Except PublishError Unit)
  | [] => []
  | m :: rest => (m, (p.publish state m).2.outcome) :: p.deliveries (p.publish state m).1 rest

namespace Plan

variable (s : TicketStore σ) (deadline : Option Nat)

/-- Without the marks, the trail of a run is its log. -/
theorem filterMap_event?_trail (p : Plan α) (time : Nat) (state : σ) :
    (p.trail s deadline time state).filterMap Mark.event? = (p.run s deadline time state).events := by
  induction p generalizing time state with
  | done result => rfl
  | many spans q next ih =>
    simp only [trail, run, Run.after, List.cons_append, List.filterMap_cons, List.filterMap_append, Mark.event?,
      filterMap_event?_overhear, ih]
  | one spans q next ih =>
    simp only [trail, run, Run.after, List.cons_append, List.filterMap_cons, List.filterMap_append, Mark.event?,
      filterMap_event?_overhear, ih]
  | log e next ih => simp only [trail, run, List.filterMap_cons, Mark.event?, ih]
  | announce a next ih => exact ih time state

theorem filterMap_query?_trail (p : Plan α) (time : Nat) (state : σ) :
    (p.trail s deadline time state).filterMap Mark.query? = (p.run s deadline time state).calls := by
  induction p generalizing time state with
  | done result => rfl
  | many spans q next ih =>
    simp only [trail, run, Run.after, List.cons_append, List.filterMap_cons, List.filterMap_append, Mark.query?,
      filterMap_query?_overhear, ih, List.nil_append]
  | one spans q next ih =>
    simp only [trail, run, Run.after, List.cons_append, List.filterMap_cons, List.filterMap_append, Mark.query?,
      filterMap_query?_overhear, ih, List.nil_append]
  | log e next ih => simp only [trail, run, List.filterMap_cons, Mark.query?, ih]
  | announce a next ih => exact ih time state

/-- No message is handed over while a plan is run. -/
theorem filterMap_delivery?_trail (p : Plan α) (time : Nat) (state : σ) :
    (p.trail s deadline time state).filterMap Mark.delivery? = [] := by
  induction p generalizing time state with
  | done result => rfl
  | many spans q next ih =>
    simp only [trail, List.cons_append, List.filterMap_cons, List.filterMap_append, Mark.delivery?,
      filterMap_delivery?_overhear, ih, List.nil_append]
  | one spans q next ih =>
    simp only [trail, List.cons_append, List.filterMap_cons, List.filterMap_append, Mark.delivery?,
      filterMap_delivery?_overhear, ih, List.nil_append]
  | log e next ih => simp only [trail, List.filterMap_cons, Mark.delivery?, ih]
  | announce a next ih => exact ih time state

/-- The trail of one plan is followed by that of the next, unless the first one fails. -/
theorem trail_bind (p : Plan α) (f : α → Plan β) (time : Nat) (state : σ) :
    (p >>= f).trail s deadline time state = p.trail s deadline time state ++
      match (p.run s deadline time state).result with
      | .ok a => (f a).trail s deadline (p.run s deadline time state).time (p.run s deadline time state).store
      | .error _ => [] := by
  change (p.bind f).trail s deadline time state = _
  induction p generalizing time state with
  | done result => cases result <;> rfl
  | many spans q next ih => simp only [bind, trail, run, Run.after, ih, List.append_assoc]
  | one spans q next ih => simp only [bind, trail, run, Run.after, ih, List.append_assoc]
  | log e next ih => simp only [bind, trail, run, ih, List.cons_append]
  | announce a next ih => simp only [bind, trail, run, ih]

theorem trail_attempt (p : Plan α) (time : Nat) (state : σ) :
    p.attempt.trail s deadline time state = p.trail s deadline time state := by
  induction p generalizing time state with
  | done result => rfl
  | many spans q next ih => simp only [attempt, trail, ih]
  | one spans q next ih => simp only [attempt, trail, ih]
  | log e next ih => simp only [attempt, trail, ih]
  | announce a next ih => exact ih time state

end Plan

namespace Notifier

variable (n : Notifier) (p : Publisher π)

theorem filterMap_event?_trail (state : π) (as : List Announcement) :
    (n.trail p state as).filterMap Mark.event? = (n.sendAll p state as).2 := by
  induction as generalizing state with
  | nil => rfl
  | cons a rest ih =>
    simp only [trail, sendAll, send, List.cons_append, List.filterMap_cons, List.filterMap_append, Mark.event?,
      filterMap_event?_overhear, ih, List.map_append, List.map_cons, List.map_nil, List.append_assoc,
      List.nil_append]

/-- Nothing is asked while messages are sent. -/
theorem filterMap_query?_trail (state : π) (as : List Announcement) :
    (n.trail p state as).filterMap Mark.query? = [] := by
  induction as generalizing state with
  | nil => rfl
  | cons a rest ih =>
    simp only [trail, List.cons_append, List.filterMap_cons, List.filterMap_append, Mark.query?,
      filterMap_query?_overhear, ih, List.nil_append]

theorem filterMap_delivery?_trail (state : π) (as : List Announcement) :
    (n.trail p state as).filterMap Mark.delivery? =
      p.deliveries state (as.map fun a => n.message a.notification) := by
  induction as generalizing state with
  | nil => rfl
  | cons a rest ih =>
    simp only [trail, List.cons_append, List.filterMap_cons, List.filterMap_append, Mark.delivery?,
      filterMap_delivery?_overhear, ih, List.nil_append, List.map_cons, Publisher.deliveries]

end Notifier

end BoxOffice
