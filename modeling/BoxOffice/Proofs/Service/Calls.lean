import BoxOffice.Proofs.Service.Run

/-!
# Calls

What a store is asked, and how that ends for whoever asks. The store may be any store: what it answers may
depend on all that it was asked before, and answers may fail, be absent or come too late.

1. A `Call` is a query with its `Ending`: data, nothing, an error of the store, or an answer that was
   not waited for.
2. `Made` says that the endings are those of a store that is asked one query after the other, and
   `Plan.Makes` that a run makes these calls and no others.
3. A call ends with the data of its outcome, or without data and then with the error that `Call.Fails`
   gives (`Reply.ending_cases`).
-/

namespace BoxOffice

variable {σ α : Type}

/-! ## Endings -/

/-- How a call ends for its caller. One record counts as a list of one. -/
inductive Ending where
  | found (data : List TicketRecord)
  | absent
  | failed (e : StoreError)
  | abandoned

/-- A query, and how the call with it ended. -/
structure Call where
  query : TicketQuery
  ending : Ending

/-- The records that the call found, if it found any list of them. -/
def Call.data? (c : Call) : Option (List TicketRecord) :=
  match c.ending with
  | .found data => some data
  | _ => none

theorem Call.data?_eq_some_iff {c : Call} {data : List TicketRecord} :
    c.data? = some data ↔ c.ending = .found data := by
  unfold data?
  cases c.ending <;> simp

/-- The reply takes time, and would come after the deadline. -/
def Reply.isLate (deadline : Option Nat) (time : Nat) (r : Reply α) : Bool :=
  deadline.any fun d => 0 < r.delay && d < time + r.delay

/-- How a call with this reply ends for a caller who waits for it from a given time on. -/
def Reply.ending (records : α → List TicketRecord) (deadline : Option Nat) (time : Nat)
    (r : Reply α) : Ending :=
  if r.isLate deadline time then .abandoned
  else match r.outcome with
    | .ok (some data) => .found (records data)
    | .ok none => .absent
    | .error e => .failed e

/-- The calls are made one after the other to a store, from a given time and state on. -/
inductive Made (s : TicketStore σ) (deadline : Option Nat) : Nat → σ → List Call → Prop
  | nil (time : Nat) (state : σ) : Made s deadline time state []
  | many {time : Nat} {state : σ} {q : TicketQuery} {rest : List Call} :
      Made s deadline ((s.many state q).2.arrive deadline time q.operation).time
        (s.many state q).1 rest →
      Made s deadline time state (⟨q, (s.many state q).2.ending id deadline time⟩ :: rest)
  | one {time : Nat} {state : σ} {q : TicketQuery} {rest : List Call} :
      Made s deadline ((s.one state q).2.arrive deadline time q.operation).time
        (s.one state q).1 rest →
      Made s deadline time state
        (⟨q, (s.one state q).2.ending (fun r => [r]) deadline time⟩ :: rest)

/-- Run at a time with a store, the plan makes these calls, and no others. -/
structure Plan.Makes (p : Plan α) (s : TicketStore σ) (deadline : Option Nat) (time : Nat) (state : σ)
    (calls : List Call) : Prop where
  made : Made s deadline time state calls
  calls_eq : (p.run s deadline time state).calls = calls.map Call.query

/-! ## Data and errors -/

/-- The error that a call without data makes of a request; `absent` is the text where there is
nothing. -/
inductive Call.Fails (absent : String) : Call → TicketError → Prop
  | absent (q : TicketQuery) : Fails absent ⟨q, .absent⟩ (.notFound absent)
  | decode (q : TicketQuery) (operation message : String) :
      Fails absent ⟨q, .failed (.decode operation message)⟩ (.internal "cannot parse ticket data")
  | query (q : TicketQuery) (operation message : String) :
      Fails absent ⟨q, .failed (.query operation message)⟩
        (.dependency (operation ++ ": query failed: " ++ message))
  | timeout (q : TicketQuery) (operation : String) :
      Fails absent ⟨q, .failed (.timeout operation)⟩
        (.dependency (operation ++ ": deadline exceeded"))
  | abandoned (q : TicketQuery) :
      Fails absent ⟨q, .abandoned⟩ (.dependency (q.operation ++ ": deadline exceeded"))

theorem Call.Fails.ne_validation {absent : String} {c : Call} {e : TicketError}
    (h : c.Fails absent e) (message : String) : e ≠ .validation message := by
  cases h <;> nofun

theorem Call.Fails.data?_eq_none {absent : String} {c : Call} {e : TicketError}
    (h : c.Fails absent e) : c.data? = none := by
  cases h <;> rfl

theorem outcome_arrive (deadline : Option Nat) (time : Nat) (operation : String) (r : Reply α) :
    (r.arrive deadline time operation).outcome =
      if r.isLate deadline time then .error (.timeout operation) else r.outcome := by
  cases deadline with
  | none => rfl
  | some d =>
    by_cases hlate : 0 < r.delay ∧ d < time + r.delay
    · simp [Reply.arrive, Reply.isLate, hlate]
    · have hin : r.isLate (some d) time = false := by simpa [Reply.isLate] using hlate
      rw [hin]
      unfold Reply.arrive
      simp only [if_neg hlate, Bool.false_eq_true, if_false]

/-- A call ends with data, or with the error that its caller makes of the reply. -/
theorem Reply.ending_cases (records : α → List TicketRecord) (deadline : Option Nat) (time : Nat)
    (q : TicketQuery) (absent : String) (r : Reply α) :
    let outcome := (r.arrive deadline time q.operation).outcome
    (∃ data, outcome = .ok (some data) ∧ r.ending records deadline time = .found (records data)) ∨
      ∃ e, Plan.settle absent outcome = .error e ∧
        Call.Fails absent ⟨q, r.ending records deadline time⟩ e := by
  intro outcome
  have houtcome : outcome = _ := outcome_arrive deadline time q.operation r
  unfold ending
  cases hlate : r.isLate deadline time with
  | true =>
    rw [hlate, if_pos rfl] at houtcome
    rw [houtcome]
    exact .inr ⟨_, rfl, .abandoned q⟩
  | false =>
    rw [hlate, if_neg Bool.false_ne_true] at houtcome
    rw [houtcome]
    rcases r.outcome with e | _ | data
    · cases e with
      | query operation message => exact .inr ⟨_, rfl, .query q operation message⟩
      | decode operation message => exact .inr ⟨_, rfl, .decode q operation message⟩
      | timeout operation => exact .inr ⟨_, rfl, .timeout q operation⟩
    · exact .inr ⟨_, rfl, .absent q⟩
    · exact .inl ⟨data, rfl, rfl⟩

/-- A call finds the data of its outcome. -/
theorem Reply.ending_eq_found_iff (records : α → List TicketRecord) (deadline : Option Nat) (time : Nat)
    (operation : String) (r : Reply α) (data : List TicketRecord) :
    r.ending records deadline time = .found data ↔
      ∃ a, (r.arrive deadline time operation).outcome = .ok (some a) ∧ records a = data := by
  rw [outcome_arrive]
  unfold ending
  cases r.isLate deadline time with
  | true => simp
  | false => rcases r.outcome with e | _ | a <;> simp

end BoxOffice
