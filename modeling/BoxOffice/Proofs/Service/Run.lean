import BoxOffice.Service.Availability

/-!
# Runs of plans

1. The run of `p >>= f` is the run of `p`, and after it, unless it failed, the run of `f` with its
   result, at the time and with the store that it left (`Plan.run_bind`).
2. A lookup asks one question, and what comes of it is settled by the outcome
   (`Plan.run_lookupMany`, `Plan.run_lookupOne`).
3. A performance sends the announcements of its run to the publisher, one message for each
   (`perform_published`, `perform_publisher`).
-/

namespace BoxOffice

variable {σ π α β : Type}

/-! ## Composition -/

namespace Run

/-- Goes on after a run with its result, at the time and with the store that it left. A run that
failed ends the whole. -/
def andThen (r : Run σ α) (next : α → Nat → σ → Run σ β) : Run σ β :=
  match r.result with
  | .ok a =>
    let n := next a r.time r.store
    { n with
      calls := r.calls ++ n.calls
      announcements := r.announcements ++ n.announcements
      events := r.events ++ n.events }
  | .error e => { r with result := .error e }

theorem after_andThen (q : TicketQuery) (events : List LogEvent) (r : Run σ α)
    (next : α → Nat → σ → Run σ β) :
    (r.after q events).andThen next = (r.andThen next).after q events := by
  unfold andThen after
  cases r.result <;> simp

end Run

namespace Plan

variable (s : TicketStore σ) (deadline : Option Nat)

@[simp] theorem run_pure (time : Nat) (state : σ) (a : α) :
    (pure a : Plan α).run s deadline time state = ⟨.ok a, state, [], [], [], time⟩ := rfl

@[simp] theorem run_fail (time : Nat) (state : σ) (e : TicketError) :
    (fail e : Plan α).run s deadline time state = ⟨.error e, state, [], [], [], time⟩ := rfl

@[simp] theorem run_note (time : Nat) (state : σ) (spans : List Span) (e : LogEvent) :
    (note spans e).run s deadline time state = ⟨.ok (), state, [], [], [e.within spans], time⟩ := rfl

@[simp] theorem run_notify (time : Nat) (state : σ) (spans : List Span) (n : SwitchNotification) :
    (notify spans n).run s deadline time state = ⟨.ok (), state, [], [⟨n, spans⟩], [], time⟩ := rfl

/-- Plans are run one after the other. -/
theorem run_bind (p : Plan α) (f : α → Plan β) (time : Nat) (state : σ) :
    (p >>= f).run s deadline time state =
      (p.run s deadline time state).andThen fun a time state => (f a).run s deadline time state := by
  change (p.bind f).run s deadline time state = _
  induction p generalizing time state with
  | done result =>
    cases result with
    | ok a => rfl
    | error e => rfl
  | many spans q next ih =>
    simp only [bind, run]
    rw [ih, Run.after_andThen]
  | one spans q next ih =>
    simp only [bind, run]
    rw [ih, Run.after_andThen]
  | log e next ih =>
    simp only [bind, run]
    rw [ih]
    unfold Run.andThen
    cases (next.run s deadline time state).result <;> rfl
  | announce a next ih =>
    simp only [bind, run]
    rw [ih]
    unfold Run.andThen
    cases (next.run s deadline time state).result <;> rfl

/-- What is made of a result at the end changes nothing else of the run. -/
theorem run_bind_pure (p : Plan α) (f : α → β) (time : Nat) (state : σ) :
    (p >>= fun a => pure (f a)).run s deadline time state =
      { p.run s deadline time state with
        result := (p.run s deadline time state).result.map f } := by
  rw [run_bind]
  unfold Run.andThen
  cases h : (p.run s deadline time state).result with
  | error e => rfl
  | ok a => simp [Except.map]

/-- An attempt runs as the plan does, and ends in what the plan ends in. -/
theorem run_attempt (p : Plan α) (time : Nat) (state : σ) :
    p.attempt.run s deadline time state =
      { p.run s deadline time state with
        result := .ok (p.run s deadline time state).result } := by
  induction p generalizing time state with
  | done result => rfl
  | many spans q next ih =>
    simp only [attempt, run]
    rw [ih]
    rfl
  | one spans q next ih =>
    simp only [attempt, run]
    rw [ih]
    rfl
  | log e next ih =>
    simp only [attempt, run]
    rw [ih]
  | announce a next ih =>
    simp only [attempt, run]
    rw [ih]

/-! ## Lookups -/

/-- What a lookup comes to; `absent` is the error's text if there is no data. -/
def settle (absent : String) : StoreResult (Option α) → Except TicketError α
  | .ok (some data) => .ok data
  | .ok none => .error (.notFound absent)
  | .error e => .error e.toTicketError

theorem settle_eq_ok_iff {absent : String} {outcome : StoreResult (Option α)} {a : α} :
    settle absent outcome = .ok a ↔ outcome = .ok (some a) := by
  rcases outcome with e | _ | data <;> simp [settle]

/-- Without data a lookup comes to an error. -/
theorem exists_settle_eq_error (absent : String) {outcome : StoreResult (Option α)}
    (h : ∀ a, outcome ≠ .ok (some a)) : ∃ e, (settle absent outcome : Except TicketError α) = .error e := by
  cases hsettle : settle absent outcome with
  | ok a => exact absurd (settle_eq_ok_iff.1 hsettle) (h a)
  | error e => exact ⟨e, rfl⟩

/-- What is logged of a lookup. -/
def settleEvents (spans : List Span) (operation absent : String) :
    StoreResult (Option α) → List LogEvent
  | .ok (some _) => []
  | .ok none => [(LogEvent.of .warn absent [("operation", operation)]).within spans]
  | .error e =>
    [(LogEvent.of .error "ticket store lookup failed"
      [("operation", operation), ("error", e.text)]).within spans]

theorem run_classify (spans : List Span) (operation absent : String)
    (outcome : StoreResult (Option α)) (time : Nat) (state : σ) :
    (classify spans operation absent outcome).run s deadline time state =
      ⟨settle absent outcome, state, [], [], settleEvents spans operation absent outcome, time⟩ := by
  rcases outcome with e | _ | data <;> rfl

/-- The run of a lookup for many records. -/
theorem run_lookupMany (spans : List Span) (absent : String) (q : TicketQuery) (time : Nat)
    (state : σ) :
    let arrival := (s.many state q).2.arrive deadline time q.operation
    (lookupMany spans absent q).run s deadline time state =
      { result := settle absent arrival.outcome
        store := (s.many state q).1
        calls := [q]
        announcements := []
        events := arrival.events.map (LogEvent.within spans) ++
          settleEvents spans q.operation absent arrival.outcome
        time := arrival.time } := by
  intro arrival
  unfold lookupMany
  simp only [run, run_classify]
  rfl

/-- The run of a lookup for one record. -/
theorem run_lookupOne (spans : List Span) (absent : String) (q : TicketQuery) (time : Nat)
    (state : σ) :
    let arrival := (s.one state q).2.arrive deadline time q.operation
    (lookupOne spans absent q).run s deadline time state =
      { result := settle absent arrival.outcome
        store := (s.one state q).1
        calls := [q]
        announcements := []
        events := arrival.events.map (LogEvent.within spans) ++
          settleEvents spans q.operation absent arrival.outcome
        time := arrival.time } := by
  intro arrival
  unfold lookupOne
  simp only [run, run_classify]
  rfl

section Bind

variable {s deadline} {spans : List Span} {absent : String} {q : TicketQuery} {time : Nat} {state : σ}

/-- A lookup that finds data goes on with it. -/
theorem run_lookupMany_bind_of_data {f : List TicketRecord → Plan α} {data : List TicketRecord}
    (h : ((s.many state q).2.arrive deadline time q.operation).outcome = .ok (some data)) :
    ∃ events, (lookupMany spans absent q >>= f).run s deadline time state =
      ((f data).run s deadline ((s.many state q).2.arrive deadline time q.operation).time
        (s.many state q).1).after q events := by
  rw [run_bind, run_lookupMany]
  simp only [h]
  exact ⟨_, rfl⟩

/-- A lookup that comes to an error ends the whole. -/
theorem run_lookupMany_bind_of_error {f : List TicketRecord → Plan α} {e : TicketError}
    (h : settle absent ((s.many state q).2.arrive deadline time q.operation).outcome = .error e) :
    ∃ events, (lookupMany spans absent q >>= f).run s deadline time state =
      ⟨.error e, (s.many state q).1, [q], [], events,
        ((s.many state q).2.arrive deadline time q.operation).time⟩ := by
  rw [run_bind, run_lookupMany]
  simp only [h]
  exact ⟨_, rfl⟩

/-- A lookup for one record comes to what is made of the record, or to its own error. -/
theorem run_lookupOne_map {g : TicketRecord → α} :
    ∃ events, (lookupOne spans absent q >>= fun data => pure (g data)).run s deadline time state =
      ⟨(settle absent ((s.one state q).2.arrive deadline time q.operation).outcome).map g,
        (s.one state q).1, [q], [], events,
        ((s.one state q).2.arrive deadline time q.operation).time⟩ := by
  rw [run_bind, run_lookupOne]
  unfold Run.andThen
  cases settle absent ((s.one state q).2.arrive deadline time q.operation).outcome <;>
    exact ⟨_, rfl⟩

/-- No lookup comes to a conflict. -/
theorem settle_ne_conflict (outcome : StoreResult (Option α)) (message : String) :
    settle absent outcome ≠ .error (.conflict message) := by
  rcases outcome with e | _ | data
  · cases e <;> nofun
  · nofun
  · nofun

end Bind

end Plan

/-! ## Sending -/

theorem Notifier.sendAll_fst (n : Notifier) (p : Publisher π) (state : π) (as : List Announcement) :
    (n.sendAll p state as).1 =
      (as.map fun a => n.message a.notification).foldl (fun state m => (p.publish state m).1)
        state := by
  induction as generalizing state with
  | nil => rfl
  | cons a rest ih =>
    simp only [sendAll, List.map_cons, List.foldl_cons]
    rw [ih]
    rfl

section Perform

variable (s : TicketService) (store : TicketStore σ) (publisher : Publisher π)
  (deadline : Option Nat) (state : σ × π) (plan : Plan α)

@[simp] theorem perform_result :
    (s.perform store publisher deadline state plan).result =
      (plan.run store deadline 0 state.1).result := rfl

theorem perform_published :
    (s.perform store publisher deadline state plan).published =
      ((plan.run store deadline 0 state.1).announcements.map Announcement.notification).map
        s.notifier.message := by
  rw [List.map_map]
  rfl

/-- The publisher has taken the published messages, in their order, and nothing else. -/
theorem perform_publisher :
    (s.perform store publisher deadline state plan).publisher =
      (s.perform store publisher deadline state plan).published.foldl
        (fun state m => (publisher.publish state m).1) state.2 :=
  s.notifier.sendAll_fst publisher state.2 _

end Perform

end BoxOffice
