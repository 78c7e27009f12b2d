import BoxOffice.Proofs.Service.Stages

/-!
# Deadlines

What a deadline changes about a request, for any store and whatever its answers and delays.

1. `Plan.waits` lists the calls that a plan makes when it has all the time it needs, each with the
   milliseconds until its answer. Calls and time of the run without a deadline are those of the list
   (`calls_run_none`, `time_run_none`).
2. `Late T time waits k`: the answer to call `k` takes time and would come after `T`. If no call is
   late, the deadline changes nothing (`run_of_in_time`).
3. A plan gives up (`Plan.GivesUp`) if it fails as soon as a lookup does not come in time, and
   announces nothing before its last lookup. Such a plan is cut off behind its first late call
   (`abandonedAt_run`).
4. `resolve`, `suggest` and `decideOnline` give up, so that `DeadlineLaw` holds of them.
-/

namespace BoxOffice

variable {σ π α β : Type}

/-! ## Waiting -/

/-- A call of a plan, and the milliseconds until its answer. -/
structure Wait where
  query : TicketQuery
  delay : Nat

/-- What a plan waits for if it has all the time it needs. -/
def Plan.waits (s : TicketStore σ) (state : σ) : Plan α → List Wait
  | .done _ => []
  | .many _ q next =>
    let reply := s.many state q
    ⟨q, reply.2.delay⟩ :: (next reply.2.outcome).waits s reply.1
  | .one _ q next =>
    let reply := s.one state q
    ⟨q, reply.2.delay⟩ :: (next reply.2.outcome).waits s reply.1
  | .log _ next => next.waits s state
  | .announce _ next => next.waits s state

/-- The milliseconds until all answers are there. -/
def totalDelay : List Wait → Nat
  | [] => 0
  | w :: waits => w.delay + totalDelay waits

@[simp] theorem totalDelay_nil : totalDelay [] = 0 := rfl

@[simp] theorem totalDelay_cons (w : Wait) (waits : List Wait) :
    totalDelay (w :: waits) = w.delay + totalDelay waits := rfl

theorem arrive_none (time : Nat) (operation : String) (r : Reply α) :
    r.arrive none time operation = ⟨r.outcome, r.events, time + r.delay⟩ := rfl

/-- The run without a deadline makes the calls that the plan waits for. -/
theorem Plan.calls_run_none (s : TicketStore σ) (p : Plan α) (time : Nat) (state : σ) :
    (p.run s none time state).calls = (p.waits s state).map Wait.query := by
  induction p generalizing time state with
  | done result => rfl
  | many spans q next ih =>
    simp only [run, waits, Run.after, List.map_cons, arrive_none, ih]
  | one spans q next ih =>
    simp only [run, waits, Run.after, List.map_cons, arrive_none, ih]
  | log e next ih => exact ih time state
  | announce a next ih => exact ih time state

/-- The run without a deadline takes as long as its answers take. -/
theorem Plan.time_run_none (s : TicketStore σ) (p : Plan α) (time : Nat) (state : σ) :
    (p.run s none time state).time = time + totalDelay (p.waits s state) := by
  induction p generalizing time state with
  | done result => rfl
  | many spans q next ih =>
    simp only [run, waits, Run.after, arrive_none, ih, totalDelay_cons, Nat.add_assoc]
  | one spans q next ih =>
    simp only [run, waits, Run.after, arrive_none, ih, totalDelay_cons, Nat.add_assoc]
  | log e next ih => exact ih time state
  | announce a next ih => exact ih time state

/-! ## Late calls -/

/-- The answer to call `k` takes time and would come after the deadline `T`, if the first call is
made at `time`. -/
def Late (T time : Nat) (waits : List Wait) (k : Nat) : Prop :=
  ∃ w, waits[k]? = some w ∧ 0 < w.delay ∧ T < time + totalDelay (waits.take (k + 1))

/-- Call `k` is the first one that is late. -/
def FirstLate (T time : Nat) (waits : List Wait) (k : Nat) : Prop :=
  Late T time waits k ∧ ∀ j < k, ¬ Late T time waits j

section Late

variable {T T' time k : Nat} {w : Wait} {waits : List Wait}

theorem late_cons_zero : Late T time (w :: waits) 0 ↔ 0 < w.delay ∧ T < time + w.delay := by
  simp [Late]

theorem late_cons_succ : Late T time (w :: waits) (k + 1) ↔ Late T (time + w.delay) waits k := by
  simp [Late, Nat.add_assoc]

/-- With more time fewer calls are late. -/
theorem Late.mono (hT : T ≤ T') (h : Late T' time waits k) : Late T time waits k := by
  obtain ⟨w, hw, hpos, hlt⟩ := h
  exact ⟨w, hw, hpos, Nat.lt_of_le_of_lt hT hlt⟩

theorem FirstLate.exists_wait (h : FirstLate T time waits k) : ∃ w, waits[k]? = some w := by
  obtain ⟨⟨w, hw, -⟩, -⟩ := h
  exact ⟨w, hw⟩

/-- If a call is late, one of them is the first. -/
theorem exists_firstLate (h : Late T time waits k) : ∃ j, FirstLate T time waits j := by
  induction k using Nat.strongRecOn with
  | ind k ih =>
    by_cases hfirst : ∃ j < k, Late T time waits j
    · obtain ⟨j, hj, hlate⟩ := hfirst
      exact ih j hj hlate
    · exact ⟨k, h, fun j hj hlate => hfirst ⟨j, hj, hlate⟩⟩

theorem firstLate_cons_zero :
    FirstLate T time (w :: waits) 0 ↔ 0 < w.delay ∧ T < time + w.delay := by
  simp [FirstLate, late_cons_zero]

theorem firstLate_cons_succ : FirstLate T time (w :: waits) (k + 1) ↔
    ¬ (0 < w.delay ∧ T < time + w.delay) ∧ FirstLate T (time + w.delay) waits k := by
  unfold FirstLate
  constructor
  · rintro ⟨hlate, hbefore⟩
    refine ⟨fun h => hbefore 0 (Nat.succ_pos k) (late_cons_zero.2 h), late_cons_succ.1 hlate, ?_⟩
    intro j hj hlate'
    exact hbefore (j + 1) (Nat.succ_lt_succ hj) (late_cons_succ.2 hlate')
  · rintro ⟨hhead, hlate, hbefore⟩
    refine ⟨late_cons_succ.2 hlate, fun j hj => ?_⟩
    cases j with
    | zero => exact fun h => hhead (late_cons_zero.1 h)
    | succ j => exact fun h => hbefore j (Nat.lt_of_succ_lt_succ hj) (late_cons_succ.1 h)

end Late

/-! ## In time -/

section Arrive

variable {T time : Nat} {operation : String} {r : Reply α}

theorem arrive_of_in_time (h : ¬ (0 < r.delay ∧ T < time + r.delay)) :
    r.arrive (some T) time operation = r.arrive none time operation := by
  show (if 0 < r.delay ∧ T < time + r.delay then _ else _) = _
  rw [if_neg h]
  rfl

theorem arrive_of_late (h : 0 < r.delay ∧ T < time + r.delay) :
    r.arrive (some T) time operation = ⟨.error (.timeout operation), [], T⟩ := by
  show (if 0 < r.delay ∧ T < time + r.delay then _ else _) = _
  rw [if_pos h]

end Arrive

/-- What follows a call that is in time is run as without a deadline if all that follows is in
time. -/
theorem run_after_of_in_time (s : TicketStore σ) {T time : Nat} {state : σ} {q : TicketQuery}
    {r : Reply β} {next : StoreResult (Option β) → Plan α} {spans : List Span}
    (h : ∀ k, ¬ Late T time (⟨q, r.delay⟩ :: (next r.outcome).waits s state) k)
    (ih : (∀ k, ¬ Late T (time + r.delay) ((next r.outcome).waits s state) k) →
      (next r.outcome).run s (some T) (time + r.delay) state =
        (next r.outcome).run s none (time + r.delay) state) :
    let arrival := r.arrive (some T) time q.operation
    ((next arrival.outcome).run s (some T) arrival.time state).after q
        (arrival.events.map (LogEvent.within spans)) =
      ((next r.outcome).run s none (time + r.delay) state).after q
        (r.events.map (LogEvent.within spans)) := by
  intro arrival
  have hhead : ¬ (0 < r.delay ∧ T < time + r.delay) := fun hlate => h 0 (late_cons_zero.2 hlate)
  have hrest := ih fun k hlate => h (k + 1) (late_cons_succ.2 hlate)
  have harr : arrival = ⟨r.outcome, r.events, time + r.delay⟩ := arrive_of_in_time hhead
  rw [harr]
  show ((next r.outcome).run s (some T) (time + r.delay) state).after q _ = _
  rw [hrest]

/-- If no call is late, the deadline changes nothing. -/
theorem Plan.run_of_in_time (s : TicketStore σ) (p : Plan α) {T time : Nat} {state : σ}
    (h : ∀ k, ¬ Late T time (p.waits s state) k) :
    p.run s (some T) time state = p.run s none time state := by
  induction p generalizing time state with
  | done result => rfl
  | many spans q next ih => exact run_after_of_in_time s h (ih _)
  | one spans q next ih => exact run_after_of_in_time s h (ih _)
  | log e next ih => simp only [run, ih h]
  | announce a next ih => simp only [run, ih h]

/-! ## Plans that give up -/

namespace Plan

/-- The plan makes no call. -/
inductive Silent : Plan α → Prop
  | done (result : Except TicketError α) : Silent (.done result)
  | log {e : LogEvent} {next : Plan α} : next.Silent → Silent (.log e next)
  | announce {a : Announcement} {next : Plan α} : next.Silent → Silent (.announce a next)

/-- The plan fails as soon as a call is too late, and announces nothing before its last call. -/
inductive GivesUp : Plan α → Prop
  | done (result : Except TicketError α) : GivesUp (.done result)
  | many {spans : List Span} {q : TicketQuery}
      {next : StoreResult (Option (List TicketRecord)) → Plan α} (e : LogEvent) :
      next (.error (.timeout q.operation)) =
        .log e (.fail (StoreError.timeout q.operation).toTicketError) →
      (∀ outcome, (next outcome).GivesUp) → GivesUp (.many spans q next)
  | one {spans : List Span} {q : TicketQuery}
      {next : StoreResult (Option TicketRecord) → Plan α} (e : LogEvent) :
      next (.error (.timeout q.operation)) =
        .log e (.fail (StoreError.timeout q.operation).toTicketError) →
      (∀ outcome, (next outcome).GivesUp) → GivesUp (.one spans q next)
  | log {e : LogEvent} {next : Plan α} : next.GivesUp → GivesUp (.log e next)
  | announce {a : Announcement} {next : Plan α} : next.Silent → GivesUp (.announce a next)

theorem Silent.waits_eq_nil {p : Plan α} (h : p.Silent) (s : TicketStore σ) (state : σ) :
    p.waits s state = [] := by
  induction h with
  | done result => rfl
  | log _ ih => exact ih
  | announce _ ih => exact ih

theorem Silent.bind {p : Plan α} {f : α → Plan β} (hp : p.Silent) (hf : ∀ a, (f a).Silent) :
    (p >>= f).Silent := by
  induction hp with
  | done result =>
    cases result with
    | ok a => exact hf a
    | error e => exact .done _
  | log _ ih => exact .log ih
  | announce _ ih => exact .announce ih

theorem Silent.givesUp {p : Plan α} (h : p.Silent) : p.GivesUp := by
  induction h with
  | done result => exact .done result
  | log _ ih => exact .log ih
  | announce hnext _ => exact .announce hnext

/-- A plan that gives up still does so if its result is used without a call. -/
theorem GivesUp.bind {p : Plan α} {f : α → Plan β} (hp : p.GivesUp) (hf : ∀ a, (f a).Silent) :
    (p >>= f).GivesUp := by
  induction hp with
  | done result =>
    cases result with
    | ok a => exact (hf a).givesUp
    | error e => exact .done _
  | many e hlate _ ih => exact .many e (by rw [hlate]; rfl) ih
  | one e hlate _ ih => exact .one e (by rw [hlate]; rfl) ih
  | log _ ih => exact .log ih
  | announce hnext => exact .announce (hnext.bind hf)

section Lookups

variable {spans : List Span} {absent : String} {q : TicketQuery}

/-- A lookup gives up, and so does what follows it. -/
theorem givesUp_lookupMany_bind {f : List TicketRecord → Plan α} (hf : ∀ data, (f data).GivesUp) :
    (lookupMany spans absent q >>= f).GivesUp := by
  refine .many _ rfl fun outcome => ?_
  rcases outcome with e | _ | data
  · exact .log (.done _)
  · exact .log (.done _)
  · exact hf data

theorem givesUp_lookupOne_bind {f : TicketRecord → Plan α} (hf : ∀ data, (f data).GivesUp) :
    (lookupOne spans absent q >>= f).GivesUp := by
  refine .one _ rfl fun outcome => ?_
  rcases outcome with e | _ | data
  · exact .log (.done _)
  · exact .log (.done _)
  · exact hf data

end Lookups

end Plan

/-! ## Too late -/

/-- The run was cut off at the deadline `T`, behind call `k`. -/
structure Run.AbandonedAt (r : Run σ α) (T : Nat) (waits : List Wait) (k : Nat) : Prop where
  calls : r.calls = (waits.take (k + 1)).map Wait.query
  result : ∀ w, waits[k]? = some w →
    r.result = .error (.dependency (w.query.operation ++ ": deadline exceeded"))
  announcements : r.announcements = []
  time : r.time = T

/-- A run that is cut off later is cut off one call later if a call was made before it. -/
theorem Run.AbandonedAt.after {r : Run σ α} {T k : Nat} {waits : List Wait}
    (h : r.AbandonedAt T waits k) (w : Wait) (events : List LogEvent) :
    (r.after w.query events).AbandonedAt T (w :: waits) (k + 1) where
  calls := by
    show w.query :: r.calls = _
    rw [h.calls]
    rfl
  result := h.result
  announcements := h.announcements
  time := h.time

/-- A call that is too late is followed by an event and the end; behind a call that is in time, the
run is cut off where the rest of it is. -/
theorem abandonedAt_after (s : TicketStore σ) {T time k : Nat} {state : σ} {q : TicketQuery}
    {r : Reply β} {next : StoreResult (Option β) → Plan α} {spans : List Span} {e : LogEvent}
    (hlate : next (.error (.timeout q.operation)) =
      .log e (.fail (StoreError.timeout q.operation).toTicketError))
    (h : FirstLate T time (⟨q, r.delay⟩ :: (next r.outcome).waits s state) k)
    (ih : ∀ {k}, FirstLate T (time + r.delay) ((next r.outcome).waits s state) k →
      ((next r.outcome).run s (some T) (time + r.delay) state).AbandonedAt T
        ((next r.outcome).waits s state) k) :
    let arrival := r.arrive (some T) time q.operation
    (((next arrival.outcome).run s (some T) arrival.time state).after q
      (arrival.events.map (LogEvent.within spans))).AbandonedAt T
        (⟨q, r.delay⟩ :: (next r.outcome).waits s state) k := by
  intro arrival
  cases k with
  | zero =>
    have harr : arrival = ⟨.error (.timeout q.operation), [], T⟩ :=
      arrive_of_late (firstLate_cons_zero.1 h)
    rw [harr]
    show (((next (.error (.timeout q.operation))).run s (some T) T state).after q []).AbandonedAt ..
    rw [hlate]
    refine ⟨rfl, ?_, rfl, rfl⟩
    rintro _ ⟨⟩
    rfl
  | succ k =>
    obtain ⟨hhead, hrest⟩ := firstLate_cons_succ.1 h
    have harr : arrival = ⟨r.outcome, r.events, time + r.delay⟩ := arrive_of_in_time hhead
    rw [harr]
    exact (ih hrest).after ⟨q, r.delay⟩ _

/-- A plan that gives up is cut off behind its first late call. -/
theorem Plan.GivesUp.abandonedAt_run {p : Plan α} (hp : p.GivesUp) (s : TicketStore σ)
    {T time k : Nat} {state : σ} (h : FirstLate T time (p.waits s state) k) :
    (p.run s (some T) time state).AbandonedAt T (p.waits s state) k := by
  induction hp generalizing time state k with
  | done result =>
    obtain ⟨w, hw⟩ := h.exists_wait
    cases hw
  | many e hlate _ ih => exact abandonedAt_after s hlate h (ih _)
  | one e hlate _ ih => exact abandonedAt_after s hlate h (ih _)
  | log _ ih =>
    have hnext := ih h
    exact ⟨hnext.calls, hnext.result, hnext.announcements, hnext.time⟩
  | announce hnext =>
    -- Nothing is called any more, so nothing can be late.
    obtain ⟨w, hw⟩ := h.exists_wait
    rw [waits, hnext.waits_eq_nil] at hw
    cases hw

/-! ## The law -/

/-- What a deadline of `T` milliseconds, counted from the start, changes about a plan. -/
structure DeadlineLaw (service : TicketService) (store : TicketStore σ) (publisher : Publisher π)
    (state : σ × π) (plan : Plan α) : Prop where
  /-- The calls that are waited for are those that are made without a deadline. -/
  calls : (service.perform store publisher none state plan).calls =
    (plan.waits store state.1).map Wait.query
  /-- Without a deadline a request takes as long as its answers take. -/
  time : (service.perform store publisher none state plan).time = totalDelay (plan.waits store state.1)
  /-- If no call is late, nothing changes. -/
  in_time : ∀ T, (∀ k, ¬ Late T 0 (plan.waits store state.1) k) →
    service.perform store publisher (some T) state plan =
      service.perform store publisher none state plan
  /-- Otherwise the first late call is the last one, and nothing is published. -/
  abandoned : ∀ T k w, FirstLate T 0 (plan.waits store state.1) k →
    (plan.waits store state.1)[k]? = some w →
    let p := service.perform store publisher (some T) state plan
    p.calls = ((plan.waits store state.1).take (k + 1)).map Wait.query ∧
      p.result = .error (.dependency (w.query.operation ++ ": deadline exceeded")) ∧
      p.published = [] ∧ p.publisher = state.2 ∧ p.time = T
  /-- A success is the same one with more time, and with all the time that is needed. -/
  ok_stays : ∀ T T' a, T ≤ T' →
    (service.perform store publisher (some T) state plan).result = .ok a →
    (service.perform store publisher (some T') state plan).result = .ok a ∧
      (service.perform store publisher none state plan).result = .ok a

/-- The law holds of all plans that give up. -/
theorem Plan.GivesUp.deadlineLaw {plan : Plan α} (hp : plan.GivesUp) (service : TicketService)
    (store : TicketStore σ) (publisher : Publisher π) (state : σ × π) :
    DeadlineLaw service store publisher state plan := by
  have in_time : ∀ T, (∀ k, ¬ Late T 0 (plan.waits store state.1) k) →
      service.perform store publisher (some T) state plan =
        service.perform store publisher none state plan := by
    intro T h
    unfold TicketService.perform
    rw [plan.run_of_in_time store h]
  refine ⟨plan.calls_run_none store 0 state.1, ?_, in_time, ?_, ?_⟩
  · have h := plan.time_run_none store 0 state.1
    rw [Nat.zero_add] at h
    exact h
  · intro T k w hfirst hw p
    have h := hp.abandonedAt_run store hfirst
    have hpublished : p.published = [] := by
      show List.map _ (plan.run store (some T) 0 state.1).announcements = []
      rw [h.announcements]
      rfl
    refine ⟨h.calls, h.result w hw, hpublished, ?_, h.time⟩
    rw [perform_publisher service store publisher (some T) state plan]
    show List.foldl _ state.2 p.published = state.2
    rw [hpublished]
    rfl
  · intro T T' a hle hok
    -- A late call would have made an error of it.
    have hnone : ∀ k, ¬ Late T 0 (plan.waits store state.1) k := by
      intro k hlate
      obtain ⟨j, hfirst⟩ := exists_firstLate hlate
      obtain ⟨w, hw⟩ := hfirst.exists_wait
      have herr := (hp.abandonedAt_run store hfirst).result w hw
      have hok' : (plan.run store (some T) 0 state.1).result = .ok a := hok
      rw [herr] at hok'
      cases hok'
    rw [in_time T hnone] at hok
    rw [in_time T' fun k hlate => hnone k (hlate.mono hle)]
    exact ⟨hok, hok⟩

/-! ## Requests -/

namespace TicketService

theorem givesUp_suggest (s : TicketService) (outer : List Span) (id : Uuid) (tag : Tag) :
    (s.suggest outer id tag).GivesUp := by
  rw [suggest_eq]
  refine Plan.givesUp_lookupMany_bind fun cheapest => ?_
  cases cheapest with
  | nil => exact .log (.done _)
  | cons winner others => exact Plan.givesUp_lookupMany_bind fun _ => .done _

theorem givesUp_complete (s : TicketService) (id : Uuid) (r : AvailabilityRequest)
    (offline : List TicketRecord) : (s.complete id r offline).GivesUp := by
  unfold complete
  dsimp only
  split
  · refine .log ((s.givesUp_suggest _ id _).bind fun suggestions => ?_)
    exact .announce (.done _)
  · exact .done _

theorem givesUp_resolve (s : TicketService) (id : Uuid) (r : AvailabilityRequest) :
    (s.resolve id r).GivesUp := by
  rw [resolve_eq]
  exact Plan.givesUp_lookupMany_bind (s.givesUp_complete id r)

theorem givesUp_sell (s : TicketService) (id : Uuid) (r : AvailabilityRequest)
    (offline : List TicketRecord) : (s.sell id r offline).GivesUp := by
  unfold sell
  dsimp only
  split
  · exact .log (.done _)
  · exact Plan.givesUp_lookupOne_bind fun _ => .done _

theorem givesUp_decideOnline (s : TicketService) (id : Uuid) (r : AvailabilityRequest) :
    (s.decideOnline id r).GivesUp := by
  rw [decideOnline_eq]
  exact Plan.givesUp_lookupMany_bind (s.givesUp_sell id r)

end TicketService

/-- A deadline cuts a request off behind its first late call, and changes nothing if there is
none. -/
theorem deadline_cuts_at_first_late_call (service : TicketService) (store : TicketStore σ)
    (publisher : Publisher π) (state : σ × π) (id : Uuid) (outer : List Span)
    (r : AvailabilityRequest) (tag : Tag) :
    DeadlineLaw service store publisher state (service.resolve id r) ∧
      DeadlineLaw service store publisher state (service.suggest outer id tag) ∧
      DeadlineLaw service store publisher state (service.decideOnline id r) :=
  ⟨(service.givesUp_resolve id r).deadlineLaw service store publisher state,
    (service.givesUp_suggest outer id tag).deadlineLaw service store publisher state,
    (service.givesUp_decideOnline id r).deadlineLaw service store publisher state⟩

end BoxOffice
