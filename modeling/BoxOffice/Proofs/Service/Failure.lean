import BoxOffice.Proofs.Service.Calls
import BoxOffice.Proofs.Service.Stages

/-!
# Failures

Why a request fails, for any store, whatever its answers and delays.

1. A result is `Classified` by the calls that were made if an error is that of the last call or a
   refusal, and behind a call without data there is no other.
2. A plan is candid (`Plan.Candid`) if it goes on with data only, and an answer without data ends it
   with the error that goes with the answer. Then its result is classified by its calls
   (`Plan.Candid.exists_calls`).
3. `resolve`, `suggest` and `decideOnline` are candid. Only `decideOnline` refuses.
-/

namespace BoxOffice

variable {σ π α β : Type}

/-! ## Classified results -/

/-- An error is that of the last call, or a refusal for which the calls are the reason. A call without
data is the last one, and the result is its error. -/
structure Classified (absent : TicketQuery → String)
    (refuses : List Call → TicketError → Prop) (calls : List Call)
    (result : Except TicketError α) : Prop where
  of_error : ∀ e, result = .error e →
    (∃ before last, calls = before ++ [last] ∧ last.Fails (absent last.query) e) ∨
      refuses calls e
  of_call : ∀ before c after, calls = before ++ c :: after → (∀ data, c.ending ≠ .found data) →
    after = [] ∧ ∃ e, c.Fails (absent c.query) e ∧ result = .error e

section Classified

variable {absent : TicketQuery → String}
  {refuses : List Call → TicketError → Prop} {calls : List Call}
  {result : Except TicketError α} {e : TicketError} {c : Call}

theorem classified_ok (a : α) : Classified absent refuses [] (.ok a) where
  of_error _ h := by cases h
  of_call before c after hsplit := by simp at hsplit

theorem classified_refusal (h : refuses [] e) :
    Classified absent refuses [] (.error e : Except TicketError α) where
  of_error e' he := by
    cases he
    exact .inr h
  of_call before c after hsplit := by simp at hsplit

/-- A call without data is the last one. -/
theorem classified_of_fails (h : c.Fails (absent c.query) e) :
    Classified absent refuses [c] (.error e : Except TicketError α) where
  of_error e' he := by
    cases he
    exact .inl ⟨[], c, rfl, h⟩
  of_call before c' after hsplit _ := by
    rcases before with _ | ⟨first, before⟩
    · cases hsplit
      exact ⟨rfl, e, h, rfl⟩
    · simp at hsplit

/-- Calls that are classified after data was found are so with the call that found it. -/
theorem Classified.cons {data : List TicketRecord}
    {q : TicketQuery}
    (h : Classified absent (fun calls => refuses (⟨q, .found data⟩ :: calls)) calls result) :
    Classified absent refuses (⟨q, .found data⟩ :: calls) result where
  of_error e he := by
    rcases h.of_error e he with ⟨before, last, rfl, hlast⟩ | hrefused
    · exact .inl ⟨_ :: before, last, rfl, hlast⟩
    · exact .inr hrefused
  of_call before c after hsplit hc := by
    cases before with
    | nil =>
      cases hsplit
      exact absurd rfl (hc data)
    | cons first before =>
      obtain ⟨-, hsplit⟩ := List.cons.inj hsplit
      exact h.of_call before c after hsplit hc

end Classified

/-! ## Candid plans -/

namespace Plan

/-- The plan goes on with data only; an answer without data ends it with the error of the answer. Any
other error is a refusal, for which the calls so far are the reason. -/
inductive Candid (absent : TicketQuery → String) :
    (List Call → TicketError → Prop) → Plan α → Prop
  | ok {refuses : List Call → TicketError → Prop} (a : α) :
      Candid absent refuses (.done (.ok a))
  | refusal {refuses : List Call → TicketError → Prop} {e : TicketError} :
      refuses [] e → Candid absent refuses (.done (.error e))
  | log {refuses : List Call → TicketError → Prop} {e : LogEvent} {next : Plan α} :
      Candid absent refuses next → Candid absent refuses (.log e next)
  | announce {refuses : List Call → TicketError → Prop} {a : Announcement}
      {next : Plan α} : Candid absent refuses next → Candid absent refuses (.announce a next)
  | many {refuses : List Call → TicketError → Prop} {spans : List Span}
      {q : TicketQuery} {next : StoreResult (Option (List TicketRecord)) → Plan α} :
      (∀ outcome e, settle (absent q) outcome = .error e →
        ∃ event, next outcome = .log event (.fail e)) →
      (∀ data, Candid absent (fun calls => refuses (⟨q, .found data⟩ :: calls))
        (next (.ok (some data)))) →
      Candid absent refuses (.many spans q next)
  | one {refuses : List Call → TicketError → Prop} {spans : List Span}
      {q : TicketQuery} {next : StoreResult (Option TicketRecord) → Plan α} :
      (∀ outcome e, settle (absent q) outcome = .error e →
        ∃ event, next outcome = .log event (.fail e)) →
      (∀ data, Candid absent (fun calls => refuses (⟨q, .found [data]⟩ :: calls))
        (next (.ok (some data)))) →
      Candid absent refuses (.one spans q next)

variable {absent : TicketQuery → String} {refuses : List Call → TicketError → Prop}

/-- The run makes these calls, and its result is classified by them. -/
structure Accounts (p : Plan α) (s : TicketStore σ) (deadline : Option Nat) (time : Nat) (state : σ)
    (absent : TicketQuery → String) (refuses : List Call → TicketError → Prop)
    (calls : List Call) : Prop extends p.Makes s deadline time state calls where
  classified : Classified absent refuses calls (p.run s deadline time state).result

/-- What a lookup comes to: without data the run is over, and with data it goes on. -/
theorem exists_classified_after (s : TicketStore σ) (deadline : Option Nat) (time : Nat) (state : σ)
    {q : TicketQuery} (r : Reply β) (records : β → List TicketRecord)
    {next : StoreResult (Option β) → Plan α} (events : List LogEvent)
    (hfail : ∀ outcome e, settle (absent q) outcome = .error e →
      ∃ event, next outcome = .log event (.fail e))
    (hdata : ∀ data time, ∃ rest, (next (.ok (some data))).Accounts s deadline time state absent
      (fun calls => refuses (⟨q, .found (records data)⟩ :: calls)) rest) :
    let arrival := r.arrive deadline time q.operation
    let run := ((next arrival.outcome).run s deadline arrival.time state).after q events
    ∃ rest, Made s deadline arrival.time state rest ∧ run.calls = q :: rest.map Call.query ∧
      Classified absent refuses (⟨q, r.ending records deadline time⟩ :: rest) run.result := by
  intro arrival run
  obtain ⟨data, houtcome, hending⟩ | ⟨e, hsettle, hfails⟩ :=
    r.ending_cases records deadline time q (absent q)
  · obtain ⟨rest, h⟩ := hdata data arrival.time
    have hrun : run = ((next (.ok (some data))).run s deadline arrival.time state).after q events :=
      congrArg (fun outcome => ((next outcome).run s deadline arrival.time state).after q events)
        houtcome
    rw [hrun, hending]
    exact ⟨rest, h.made, congrArg (List.cons q) h.calls_eq, h.classified.cons⟩
  · obtain ⟨event, hnext⟩ := hfail _ e hsettle
    have hrun : run = ((log event (fail e)).run s deadline arrival.time state).after q events :=
      congrArg (fun plan => (plan.run s deadline arrival.time state).after q events) hnext
    rw [hrun]
    exact ⟨[], .nil _ _, rfl, classified_of_fails hfails⟩

/-- The result of a candid plan is classified by its calls, whatever the store answers. -/
theorem Candid.exists_calls {p : Plan α} (hp : p.Candid absent refuses) (s : TicketStore σ)
    (deadline : Option Nat) (time : Nat) (state : σ) :
    ∃ calls, p.Accounts s deadline time state absent refuses calls := by
  induction hp generalizing time state with
  | ok a => exact ⟨[], ⟨.nil _ _, rfl⟩, classified_ok a⟩
  | refusal h => exact ⟨[], ⟨.nil _ _, rfl⟩, classified_refusal h⟩
  | log _ ih =>
    obtain ⟨calls, h⟩ := ih time state
    exact ⟨calls, ⟨h.made, h.calls_eq⟩, h.classified⟩
  | announce _ ih =>
    obtain ⟨calls, h⟩ := ih time state
    exact ⟨calls, ⟨h.made, h.calls_eq⟩, h.classified⟩
  | many hfail _ ih =>
    obtain ⟨rest, hmade, hcalls, hclassified⟩ := exists_classified_after s deadline time _
      (s.many state _).2 id _ hfail fun data time => ih data time _
    exact ⟨_, ⟨.many hmade, hcalls⟩, hclassified⟩
  | one hfail _ ih =>
    obtain ⟨rest, hmade, hcalls, hclassified⟩ := exists_classified_after s deadline time _
      (s.one state _).2 (fun r => [r]) _ hfail fun data time => ih data time _
    exact ⟨_, ⟨.one hmade, hcalls⟩, hclassified⟩

/-- A candid plan stays so if its result is used without a call and without a failure. -/
theorem Candid.bind {p : Plan α} {f : α → Plan β} (hp : p.Candid absent refuses)
    (hf : ∀ a refuses, (f a).Candid absent refuses) : (p >>= f).Candid absent refuses := by
  induction hp with
  | ok a => exact hf a _
  | refusal h => exact .refusal h
  | log _ ih => exact .log ih
  | announce _ ih => exact .announce ih
  | many hfail _ ih =>
    refine .many (fun outcome e he => ?_) ih
    obtain ⟨event, hnext⟩ := hfail outcome e he
    exact ⟨event, by rw [hnext]; rfl⟩
  | one hfail _ ih =>
    refine .one (fun outcome e he => ?_) ih
    obtain ⟨event, hnext⟩ := hfail outcome e he
    exact ⟨event, by rw [hnext]; rfl⟩

/-! ## Lookups -/

section Lookups

variable {spans : List Span} {text : String} {q : TicketQuery}

/-- What follows a lookup that came to an error is one event and the error. -/
theorem exists_classify_bind {f : β → Plan α} {outcome : StoreResult (Option β)} {e : TicketError}
    (h : settle text outcome = .error e) :
    ∃ event, (classify spans q.operation text outcome >>= f) = .log event (.fail e) := by
  rcases outcome with x | _ | data
  · cases h
    exact ⟨_, rfl⟩
  · cases h
    exact ⟨_, rfl⟩
  · cases h

theorem candid_lookupMany_bind {f : List TicketRecord → Plan α} (htext : absent q = text)
    (hf : ∀ data, (f data).Candid absent fun calls => refuses (⟨q, .found data⟩ :: calls)) :
    (lookupMany spans text q >>= f).Candid absent refuses := by
  subst htext
  exact .many (fun _ _ h => exists_classify_bind h) hf

theorem candid_lookupOne_bind {f : TicketRecord → Plan α} (htext : absent q = text)
    (hf : ∀ data, (f data).Candid absent fun calls => refuses (⟨q, .found [data]⟩ :: calls)) :
    (lookupOne spans text q >>= f).Candid absent refuses := by
  subst htext
  exact .one (fun _ _ h => exists_classify_bind h) hf

end Lookups

end Plan

/-! ## Requests -/

/-- The text for nothing where a listing or suggestions are asked for. -/
def listingAbsence (_ : TicketQuery) : String := "ticket not found"

/-- The text for nothing where the online ticket is asked for. -/
def saleAbsence (q : TicketQuery) : String :=
  if q.kind = .offlineByCountryEvent then "offline ticket not found" else "ticket not found"

/-- Nothing is refused. -/
def RefusesNothing (_ : List Call) (_ : TicketError) : Prop := False

/-- The online ticket is refused where the only call so far asked for offline tickets, and found
some. -/
def RefusesOnline (calls : List Call) (e : TicketError) : Prop :=
  e = .conflict "Offline ticket still available" ∧
    ∃ q offline, calls = [⟨q, .found offline⟩] ∧ q.kind = .offlineByCountryEvent ∧ offline ≠ []

namespace TicketService

theorem ne_nil_of_offlineAvailable {policy : AvailabilityPolicy} {offline : List TicketRecord}
    (h : (policy.assess offline).onlineEligibility = .offlineAvailable) : offline ≠ [] := by
  rintro rfl
  have hstatus : (policy.assess []).status ≠ .available := by
    unfold OfflineAssessment.status
    split
    · nofun
    · nofun
  unfold OfflineAssessment.onlineEligibility at h
  cases hs : (policy.assess []).status with
  | available => exact hstatus hs
  | empty =>
    rw [hs] at h
    cases h
  | exhausted =>
    rw [hs] at h
    cases h

theorem candid_suggest (s : TicketService) (outer : List Span) (id : Uuid) (tag : Tag) :
    (s.suggest outer id tag).Candid listingAbsence RefusesNothing := by
  rw [suggest_eq]
  refine Plan.candid_lookupMany_bind rfl fun cheapest => ?_
  cases cheapest with
  | nil => exact .log (.ok _)
  | cons winner others => exact Plan.candid_lookupMany_bind rfl fun _ => .ok _

theorem candid_resolve (s : TicketService) (id : Uuid) (r : AvailabilityRequest) :
    (s.resolve id r).Candid listingAbsence RefusesNothing := by
  rw [resolve_eq]
  refine Plan.candid_lookupMany_bind rfl fun offline => ?_
  unfold complete
  dsimp only
  split
  · refine .log ((s.candid_suggest _ id _).bind fun suggestions refuses => ?_)
    exact .announce (.ok _)
  · exact .ok _

theorem candid_decideOnline (s : TicketService) (id : Uuid) (r : AvailabilityRequest) :
    (s.decideOnline id r).Candid saleAbsence RefusesOnline := by
  rw [decideOnline_eq]
  refine Plan.candid_lookupMany_bind rfl fun offline => ?_
  unfold sell
  dsimp only
  split
  · next h => exact .log (.refusal ⟨rfl, _, offline, rfl, rfl, ne_nil_of_offlineAvailable h⟩)
  · exact Plan.candid_lookupOne_bind rfl fun _ => .ok _

end TicketService

/-- A request makes these calls, and they tell how it fails: with the error of its last call, or with
a refusal. A call without data is the last one, and the result is its error. No parameter is blamed,
and the text for a call that failed or was abandoned begins with its operation. -/
structure FailsByCalls (absent : TicketQuery → String)
    (refuses : List Call → TicketError → Prop) (calls : List Call)
    (p : Performance σ π α) : Prop where
  calls_eq : p.calls = calls.map Call.query
  classified : Classified absent refuses calls p.result
  not_validation : ∀ message, p.result ≠ .error (.validation message)
  names_operation : ∀ before last, calls = before ++ [last] →
    last.ending = .abandoned ∨
      (∃ message, last.ending = .failed (.query last.query.operation message)) →
    ∃ rest, p.result = .error (.dependency (last.query.operation ++ rest))

section Perform

variable (service : TicketService) (store : TicketStore σ) (publisher : Publisher π)
  (deadline : Option Nat) (state : σ × π)

theorem exists_failsByCalls {plan : Plan α} {absent : TicketQuery → String}
    {refuses : List Call → TicketError → Prop} (hp : plan.Candid absent refuses)
    (hrefuses : ∀ calls message, ¬ refuses calls (.validation message)) :
    ∃ calls, Made store deadline 0 state.1 calls ∧
      FailsByCalls absent refuses calls
        (service.perform store publisher deadline state plan) := by
  obtain ⟨calls, h⟩ := hp.exists_calls store deadline 0 state.1
  refine ⟨calls, h.made, h.calls_eq, h.classified, ?_, ?_⟩
  · intro message hresult
    rcases h.classified.of_error _ hresult with ⟨_, last, -, hlast⟩ | hrefused
    · exact hlast.ne_validation message rfl
    · exact hrefuses calls message hrefused
  · rintro before ⟨q, ending⟩ hsplit
      (hending : ending = .abandoned ∨ ∃ message, ending = .failed (.query q.operation message))
    have hnone : ∀ data, ending ≠ .found data := by
      rintro data rfl
      rcases hending with hending | ⟨_, hending⟩ <;> cases hending
    obtain ⟨-, e, hfails, hresult⟩ := h.classified.of_call before _ [] hsplit hnone
    rcases hending with rfl | ⟨message, rfl⟩
    · cases hfails
      exact ⟨_, hresult⟩
    · cases hfails
      exact ⟨_, hresult.trans (by rw [String.append_assoc])⟩

end Perform

end BoxOffice
