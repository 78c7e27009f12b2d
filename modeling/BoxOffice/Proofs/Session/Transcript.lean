import BoxOffice.Proofs.Session.Alike
import BoxOffice.Store.Memory

/-!
# Sessions

A session is a list of steps, of which each puts something into a store or asks a question: of the
store, of the service, or over HTTP. The steps share the store and the publisher.

1. `Session.run` takes the steps one after the other, each with an identifier of its own, and keeps an
   `Entry` for each: what was answered, what the store was asked, and what was published.
2. A session is run in parts (`run_append`).
3. What is answered and asked does not depend on the publisher and on the identifiers, and what is
   published depends on the notifier by its messages only (`echoes_ask`).
-/

namespace BoxOffice

open BoxOffice.Json

variable {σ π π' α β : Type}

/-! ## Definitions -/

/-- A store that documents can be put into. -/
structure Stock (σ : Type) extends TicketStore σ where
  insertDocument : σ → Value → σ
  insertRecord : σ → TicketRecord → σ
  size : σ → Nat

/-- The store in memory. -/
def Stock.memory : Stock MemoryStore :=
  { MemoryStore.store with
    insertDocument := MemoryStore.insertDocument
    insertRecord := MemoryStore.insert
    size := MemoryStore.size }

namespace Session

/-- What can be asked: the store for its size and for records, the service, and the application. -/
inductive Question where
  | size
  | many (q : TicketQuery)
  | one (q : TicketQuery)
  | resolve (deadline : Option Nat) (r : AvailabilityRequest)
  | suggest (deadline : Option Nat) (tag : Tag)
  | decideOnline (deadline : Option Nat) (r : AvailabilityRequest)
  | http (r : Http.Request)

/-- A step of a session. -/
inductive Step where
  | insertDocument (d : Value)
  | insertRecord (r : TicketRecord)
  | ask (q : Question)

/-- What comes of a step; of a response, the status and the body. -/
inductive Answer where
  | inserted
  | size (n : Nat)
  | many (outcome : StoreResult (Option (List TicketRecord)))
  | one (outcome : StoreResult (Option TicketRecord))
  | listing (result : Except TicketError TicketListing)
  | suggestions (result : Except TicketError (List SuggestionView))
  | view (result : Except TicketError TicketView)
  | response (result : Except TicketError (Nat × String))

/-- What is kept of a step: its answer, what the store was asked, and the messages that were handed to
the publisher. -/
structure Entry where
  answer : Answer
  calls : List TicketQuery
  published : List Message

/-- What is kept of a performance. -/
def entry (answer : Except TicketError α → Answer) (p : Performance σ π α) : (σ × π) × Entry :=
  ((p.store, p.publisher), ⟨answer p.result, p.calls, p.published⟩)

section Run

variable (app : Http.App) (stock : Stock σ) (publisher : Publisher π)

/-- Asks a question, for which a fresh identifier is at hand. -/
def ask (fresh : Uuid) (state : σ × π) : Question → (σ × π) × Entry
  | .size => (state, ⟨.size (stock.size state.1), [], []⟩)
  | .many q =>
    let (next, reply) := stock.many state.1 q
    ((next, state.2), ⟨.many reply.outcome, [q], []⟩)
  | .one q =>
    let (next, reply) := stock.one state.1 q
    ((next, state.2), ⟨.one reply.outcome, [q], []⟩)
  | .resolve deadline r => entry .listing
    (app.service.perform stock.toTicketStore publisher deadline state (app.service.resolve fresh r))
  | .suggest deadline tag => entry .suggestions
    (app.service.perform stock.toTicketStore publisher deadline state
      (app.service.suggest [] fresh tag))
  | .decideOnline deadline r => entry .view
    (app.service.perform stock.toTicketStore publisher deadline state
      (app.service.decideOnline fresh r))
  | .http r => entry (fun result => .response (result.map Http.Response.shown))
    (app.respond stock.toTicketStore publisher state fresh r)

/-- Takes a step. -/
def step (fresh : Uuid) (state : σ × π) : Step → (σ × π) × Entry
  | .insertDocument d => ((stock.insertDocument state.1 d, state.2), ⟨.inserted, [], []⟩)
  | .insertRecord r => ((stock.insertRecord state.1 r, state.2), ⟨.inserted, [], []⟩)
  | .ask q => ask app stock publisher fresh state q

/-- Takes steps one after the other, each with the next identifier. -/
def run (ids : Nat → Uuid) (state : σ × π) : List Step → (σ × π) × List Entry
  | [] => (state, [])
  | first :: rest =>
    let now := step app stock publisher (ids 0) state first
    let later := run (fun n => ids (n + 1)) now.1 rest
    (later.1, now.2 :: later.2)

theorem run_append (ids : Nat → Uuid) (state : σ × π) (before after : List Step) :
    run app stock publisher ids state (before ++ after) =
      let first := run app stock publisher ids state before
      let later := run app stock publisher (fun n => ids (n + before.length)) first.1 after
      (later.1, first.2 ++ later.2) := by
  induction before generalizing ids state with
  | nil => rfl
  | cons first before ih =>
    simp only [List.cons_append, run, ih]
    rfl

theorem length_run (ids : Nat → Uuid) (state : σ × π) (steps : List Step) :
    (run app stock publisher ids state steps).2.length = steps.length := by
  induction steps generalizing ids state with
  | nil => rfl
  | cons first rest ih => exact congrArg (· + 1) (ih _ _)

end Run

/-! ## Echoes -/

/-- The entries differ at most in their messages, and those carry the same notifications for the one
notifier and for the other. -/
structure Echo (notifier notifier' : Notifier) (e e' : Entry) : Prop where
  answer : e'.answer = e.answer
  calls : e'.calls = e.calls
  published : ∃ notifications : List SwitchNotification,
    e.published = notifications.map notifier.message ∧
      e'.published = notifications.map notifier'.message

/-- The states have the same store, and the entries are echoes. -/
structure Echoes (notifier notifier' : Notifier) (a : (σ × π) × Entry) (a' : (σ × π') × Entry) :
    Prop where
  store : a'.1.1 = a.1.1
  entry : Echo notifier notifier' a.2 a'.2

section Echo

variable {policy : AvailabilityPolicy} {notifier notifier' : Notifier} {timeout : Nat}
  {stock : Stock σ} {publisher : Publisher π} {publisher' : Publisher π'} {u u' : Uuid} {state : σ}
  {begin : π} {begin' : π'}

/-- Alike plans are performed alike, whatever the publishers do. -/
theorem echoes_entry {view : α → β} {plan plan' : Plan α} (h : plan.Alike view plan')
    {answer : Except TicketError α → Answer}
    (hanswer : ∀ result result', result.map view = result'.map view →
      answer result = answer result') (deadline : Option Nat) :
    Echoes notifier notifier'
      (entry answer ((⟨policy, notifier⟩ : TicketService).perform stock.toTicketStore publisher
        deadline (state, begin) plan))
      (entry answer ((⟨policy, notifier'⟩ : TicketService).perform stock.toTicketStore publisher'
        deadline (state, begin') plan')) := by
  have hrun := h.run stock.toTicketStore deadline 0 state
  have hmessages := perform_published (⟨policy, notifier'⟩ : TicketService) stock.toTicketStore
    publisher' deadline (state, begin') plan'
  rw [← hrun.notifications] at hmessages
  exact ⟨hrun.store.symm, (hanswer _ _ hrun.result).symm, hrun.calls.symm, _,
    perform_published ⟨policy, notifier⟩ stock.toTicketStore publisher deadline (state, begin) plan,
    hmessages⟩

/-- Where the whole result is viewed, whatever is made of it is the same. -/
theorem congr_of_map_id (answer : Except TicketError α → Answer)
    (result result' : Except TicketError α) (h : result.map id = result'.map id) :
    answer result = answer result' := by
  rw [Except.map_id] at h
  exact congrArg answer h

/-- Questions are echoed, whatever the notifiers, the publishers and the identifiers are. -/
theorem echoes_ask (q : Question) :
    Echoes notifier notifier'
      (ask ⟨⟨policy, notifier⟩, timeout⟩ stock publisher u (state, begin) q)
      (ask ⟨⟨policy, notifier'⟩, timeout⟩ stock publisher' u' (state, begin') q) := by
  cases q with
  | size => exact ⟨rfl, rfl, rfl, [], rfl, rfl⟩
  | many q => exact ⟨rfl, rfl, rfl, [], rfl, rfl⟩
  | one q => exact ⟨rfl, rfl, rfl, [], rfl, rfl⟩
  | resolve deadline r =>
    have halike := TicketService.alike_resolve policy notifier notifier' u u' r
    exact echoes_entry halike (congr_of_map_id .listing) deadline
  | suggest deadline tag =>
    have halike := TicketService.alike_suggest policy notifier notifier' u u' [] [] tag
    exact echoes_entry halike (congr_of_map_id .suggestions) deadline
  | decideOnline deadline r =>
    have halike := TicketService.alike_decideOnline policy notifier notifier' u u' r
    exact echoes_entry halike (congr_of_map_id .view) deadline
  | http r =>
    have halike := Http.App.alike_handle policy notifier notifier' timeout u u' r
    exact echoes_entry halike (fun _ _ h => congrArg Answer.response h) (some timeout)

end Echo

end Session

end BoxOffice
