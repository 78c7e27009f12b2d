import BoxOffice.Proofs.Chain
import BoxOffice.Proofs.Service.Trail

/-!
# What a step tells of itself

Whoever reads the log of a step learns whether its last question was answered, and what became of its messages.

1. `Tells` says what a step logs itself of its questions: no warning and no error, unless it fails for want of an
   answer. Then it ends with one event about the last question (`Verdict`).
2. Lookups tell, and so does what is put together of plans that tell (`Plan.tells_bind`): `resolve`, `suggest` and
   `decideOnline`.
3. `Reported` says that behind each message there is one event about it (`ReportOf`).
4. So the warnings, the failures of lookups and the reports among the events of a step are as many as its result
   and its messages say (`ToldBy`, `toldBy_of_parts`).
-/

namespace BoxOffice

variable {σ π α β : Type}

/-! ## What a step logs of its questions -/

/-- The event is what is logged of a message, by what became of it. -/
inductive ReportOf : Except PublishError Unit → LogEvent → Prop
  | sent (spans : List Span) : ReportOf (.ok ()) ⟨.info, some "sent switch-to-online notification", [], spans⟩
  | failed (x : PublishError) (spans : List Span) :
      ReportOf (.error x) ⟨.error, some "switch-to-online notification failed", [("error", x.text)], spans⟩

/-- The event is what is logged of the last question of a step that fails with the error, for want of an answer. -/
inductive Verdict : TicketQuery → TicketError → LogEvent → Prop
  | absent (q : TicketQuery) (message : String) (spans : List Span) :
      Verdict q (.notFound message) ⟨.warn, some message, [("operation", q.operation)], spans⟩
  | failed (q : TicketQuery) (x : StoreError) (spans : List Span) :
      Verdict q x.toTicketError
        ⟨.error, some "ticket store lookup failed", [("operation", q.operation), ("error", x.text)], spans⟩

/-- A refusal, for which no answer of the store is to blame. -/
inductive TicketError.IsRefusal : TicketError → Prop
  | validation (message : String) : IsRefusal (.validation message)
  | conflict (message : String) : IsRefusal (.conflict message)

/-- The event is neither a warning nor an error, nor does it report a message. -/
structure LogEvent.IsCalm (e : LogEvent) : Prop where
  level : e.level = .debug ∨ e.level = .info
  message : e.message ≠ some "sent switch-to-online notification"

theorem isCalm_of {level : LogLevel} {message : String} (fields : LogFields)
    (hlevel : level = .debug ∨ level = .info) (hmessage : message ≠ "sent switch-to-online notification") :
    (LogEvent.of level message fields).IsCalm := ⟨hlevel, mt Option.some.inj hmessage⟩

/-- Whatever the step logs itself is calm. -/
def Calm (trail : List Mark) : Prop := ∀ e ∈ ownEvents trail, e.IsCalm

/-- The step logs calmly, unless it fails for want of an answer. Then it ends with the verdict on the last question,
which comes right behind it. -/
inductive Tells : Except TicketError α → List Mark → Prop
  | quiet {result : Except TicketError α} {trail : List Mark} :
      (∀ e, result = .error e → e.IsRefusal) → Calm trail → Tells result trail
  | verdict {before : List Mark} {q : TicketQuery} {e : TicketError} {event : LogEvent} (spans : List Span)
      (overheard : List LogEvent) : Calm before → Verdict q e event →
      Tells (.error e) (before ++ .asked q :: overhear spans overheard ++ [.logged event])

section Tells

variable {trail before after : List Mark} {result : Except TicketError α}

theorem ownEvents_append (before after : List Mark) :
    ownEvents (before ++ after) = ownEvents before ++ ownEvents after := List.filterMap_append

theorem calm_nil : Calm [] := nofun

theorem calm_append_iff : Calm (before ++ after) ↔ Calm before ∧ Calm after := by
  unfold Calm
  rw [ownEvents_append]
  exact List.forall_mem_append

theorem calm_asked (q : TicketQuery) (spans : List Span) (overheard : List LogEvent) :
    Calm (.asked q :: overhear spans overheard) := by
  intro e he
  rw [show ownEvents (.asked q :: overhear spans overheard) = ownEvents (overhear spans overheard) from rfl,
    ownEvents_overhear] at he
  cases he

/-- A calm beginning makes no difference. -/
theorem Tells.prepend (hbefore : Calm before) (h : Tells result trail) : Tells result (before ++ trail) := by
  cases h with
  | quiet hrefusal hcalm => exact .quiet hrefusal (calm_append_iff.2 ⟨hbefore, hcalm⟩)
  | verdict spans overheard hcalm hverdict =>
    have hrest := Tells.verdict (α := α) spans overheard (calm_append_iff.2 ⟨hbefore, hcalm⟩) hverdict
    simpa only [List.append_assoc] using hrest

/-- Where a step fails, its failure tells nothing of what it would have given. -/
theorem Tells.of_error {e : TicketError} (h : Tells (.error e : Except TicketError α) trail) :
    Tells (.error e : Except TicketError β) trail := by
  cases h with
  | quiet hrefusal hcalm =>
    refine .quiet (fun e' he => ?_) hcalm
    cases he
    exact hrefusal e rfl
  | verdict spans overheard hcalm hverdict => exact .verdict spans overheard hcalm hverdict

theorem Tells.calm_of_ok {a : α} (h : Tells (.ok a) trail) : Calm trail := by
  cases h with
  | quiet _ hcalm => exact hcalm

end Tells

namespace Plan

/-- Whatever the store answers and however long that takes, the trail of the plan tells how it ends. -/
def Tells (p : Plan α) : Prop :=
  ∀ {σ : Type} (s : TicketStore σ) (deadline : Option Nat) (time : Nat) (state : σ),
    BoxOffice.Tells (p.run s deadline time state).result (p.trail s deadline time state)

theorem tells_pure (a : α) : (pure a : Plan α).Tells := fun _ _ _ _ => .quiet nofun calm_nil

theorem tells_fail {e : TicketError} (h : e.IsRefusal) : (fail e : Plan α).Tells := by
  intro σ s deadline time state
  refine .quiet (fun e' he => ?_) calm_nil
  cases he
  exact h

theorem tells_note {spans : List Span} {e : LogEvent} (h : e.IsCalm) : (note spans e).Tells := by
  intro σ s deadline time state
  refine .quiet nofun fun e' he => ?_
  obtain rfl : e' = e.within spans := List.mem_singleton.1 he
  exact ⟨h.level, h.message⟩

theorem tells_notify (spans : List Span) (n : SwitchNotification) : (notify spans n).Tells :=
  fun _ _ _ _ => .quiet nofun calm_nil

/-- What is put together of plans that tell, tells. -/
theorem tells_bind {p : Plan α} {f : α → Plan β} (hp : p.Tells) (hf : ∀ a, (f a).Tells) : (p >>= f).Tells := by
  intro σ s deadline time state
  have h := hp s deadline time state
  rw [run_bind, trail_bind]
  unfold Run.andThen
  cases hresult : (p.run s deadline time state).result with
  | error e =>
    rw [hresult] at h
    rw [List.append_nil]
    exact h.of_error
  | ok a =>
    rw [hresult] at h
    exact (hf a s deadline _ _).prepend h.calm_of_ok

/-- The trail of a question whose answer is settled tells of it. -/
theorem tells_settle {absent : String} {q : TicketQuery} (outer spans : List Span) (overheard : List LogEvent)
    (outcome : StoreResult (Option α)) :
    BoxOffice.Tells (settle absent outcome)
      (.asked q :: overhear outer overheard ++
        (settleEvents spans q.operation absent outcome).map Mark.logged) := by
  rcases outcome with x | _ | data
  · exact @BoxOffice.Tells.verdict α [] q _ _ outer overheard calm_nil (.failed q x _)
  · exact @BoxOffice.Tells.verdict α [] q _ _ outer overheard calm_nil (.absent q absent _)
  · refine .quiet nofun ?_
    rw [settleEvents, List.map_nil, List.append_nil]
    exact calm_asked q outer overheard

theorem trail_classify (s : TicketStore σ) (deadline : Option Nat) (time : Nat) (state : σ) (spans : List Span)
    (operation absent : String) (outcome : StoreResult (Option α)) :
    (classify spans operation absent outcome).trail s deadline time state =
      (settleEvents spans operation absent outcome).map Mark.logged := by
  rcases outcome with x | _ | data <;> rfl

theorem tells_lookupMany (spans : List Span) (absent : String) (q : TicketQuery) :
    (lookupMany spans absent q).Tells := by
  intro σ s deadline time state
  rw [run_lookupMany]
  unfold lookupMany
  rw [trail, trail_classify]
  exact tells_settle spans spans _ _

theorem tells_lookupOne (spans : List Span) (absent : String) (q : TicketQuery) :
    (lookupOne spans absent q).Tells := by
  intro σ s deadline time state
  rw [run_lookupOne]
  unfold lookupOne
  rw [trail, trail_classify]
  exact tells_settle spans spans _ _

end Plan

namespace TicketService

variable (s : TicketService)

theorem tells_suggest (outer : List Span) (id : Uuid) (tag : Tag) : (s.suggest outer id tag).Tells := by
  rw [suggest_eq]
  apply Plan.tells_bind (Plan.tells_lookupMany _ _ _)
  intro cheapest
  cases cheapest with
  | nil => exact Plan.tells_bind (Plan.tells_note (isCalm_of _ (.inl rfl) (by decide))) fun _ => Plan.tells_pure _
  | cons winner others => exact Plan.tells_bind (Plan.tells_lookupMany _ _ _) fun _ => Plan.tells_pure _

theorem tells_resolve (id : Uuid) (r : AvailabilityRequest) : (s.resolve id r).Tells := by
  rw [resolve_eq]
  apply Plan.tells_bind (Plan.tells_lookupMany _ _ _)
  intro offline
  obtain hcomplete | ⟨last, -, hcomplete⟩ := s.complete_cases id r offline
  · rw [hcomplete]
    exact Plan.tells_pure _
  · rw [hcomplete]
    apply Plan.tells_bind (Plan.tells_note (isCalm_of _ (.inr rfl) (by decide)))
    intro _
    apply Plan.tells_bind (s.tells_suggest _ _ _)
    intro suggestions
    exact Plan.tells_bind (Plan.tells_notify _ _) fun _ => Plan.tells_pure _

theorem tells_decideOnline (id : Uuid) (r : AvailabilityRequest) : (s.decideOnline id r).Tells := by
  rw [decideOnline_eq]
  apply Plan.tells_bind (Plan.tells_lookupMany _ _ _)
  intro offline
  unfold sell
  dsimp only
  split
  · exact Plan.tells_bind (Plan.tells_note (isCalm_of _ (.inr rfl) (by decide))) fun _ => Plan.tells_fail (.conflict _)
  · exact Plan.tells_bind (Plan.tells_lookupOne _ _ _) fun _ => Plan.tells_pure _

end TicketService

/-! ## What a step logs of its messages -/

/-- Each message is followed by one event about it, which says what became of it. -/
inductive Reported : List Mark → Prop
  | nil : Reported []
  | cons {m : Message} {outcome : Except PublishError Unit} {event : LogEvent} {rest : List Mark} (spans : List Span)
      (overheard : List LogEvent) : ReportOf outcome event → Reported rest →
      Reported (.handed m outcome :: overhear spans overheard ++ .logged event :: rest)

theorem reportOf_report (outcome : Except PublishError Unit) (spans : List Span) :
    ReportOf outcome ((Notifier.report outcome).within spans) := by
  cases outcome with
  | ok _ => exact .sent _
  | error x => exact .failed x _

/-- Whatever the publisher does, each message is reported. -/
theorem Notifier.reported_trail (n : Notifier) (p : Publisher π) (state : π) (as : List Announcement) :
    Reported (n.trail p state as) := by
  induction as generalizing state with
  | nil => exact .nil
  | cons a rest ih => exact .cons _ _ (reportOf_report _ _) (ih _)

/-- There are as many reports as messages, in their order. -/
theorem Reported.forall₂ {trail : List Mark} (h : Reported trail) :
    List.Forall₂ (fun d event => ReportOf d.2 event) (trail.filterMap Mark.delivery?) (ownEvents trail) := by
  induction h with
  | nil => exact .nil
  | @cons m outcome event rest spans overheard hreport _ ih =>
    have hdeliveries : (Mark.handed m outcome :: overhear spans overheard ++ .logged event :: rest).filterMap
        Mark.delivery? = (m, outcome) :: rest.filterMap Mark.delivery? := by
      simp only [List.cons_append, List.filterMap_cons, List.filterMap_append, Mark.delivery?,
        filterMap_delivery?_overhear, List.nil_append]
    have hown : ownEvents (Mark.handed m outcome :: overhear spans overheard ++ .logged event :: rest) =
        event :: ownEvents rest := by
      rw [ownEvents_append]
      show ownEvents (overhear spans overheard) ++ event :: ownEvents rest = _
      rw [ownEvents_overhear, List.nil_append]
    rw [hdeliveries, hown]
    exact .cons hreport ih

theorem Reported.filterMap_query? {trail : List Mark} (h : Reported trail) : trail.filterMap Mark.query? = [] := by
  induction h with
  | nil => rfl
  | cons spans overheard _ _ ih =>
    simp only [List.cons_append, List.filterMap_cons, List.filterMap_append, Mark.query?,
      filterMap_query?_overhear, ih, List.nil_append]

/-! ## What the log is about -/

/-- What an event is about. -/
inductive Concern where
  | warning
  | failedLookup
  | report
  | failedRequest
  | other
  deriving DecidableEq

/-- What an event is about, by its level and its message. -/
def LogEvent.concern (e : LogEvent) : Concern :=
  match e.level with
  | .warn => .warning
  | .error =>
    if e.message = some "ticket store lookup failed" then .failedLookup
    else if e.message = some "switch-to-online notification failed" then .report
    else if e.message = some "ticket request failed" then .failedRequest
    else .other
  | .info => if e.message = some "sent switch-to-online notification" then .report else .other
  | .debug => .other

/-- The events about something. -/
def about (c : Concern) (events : List LogEvent) : List LogEvent := events.filter fun e => e.concern = c

section About

variable {c c' : Concern} {events : List LogEvent}

theorem about_append (c : Concern) (before after : List LogEvent) :
    about c (before ++ after) = about c before ++ about c after := List.filter_append ..

theorem about_eq_self (h : ∀ e ∈ events, e.concern = c) : about c events = events :=
  List.filter_eq_self.2 fun e he => decide_eq_true (h e he)

theorem about_eq_nil (h : ∀ e ∈ events, e.concern = c') (hne : c' ≠ c) : about c events = [] :=
  List.filter_eq_nil_iff.2 fun e he => by rw [h e he]; simpa using hne

theorem LogEvent.IsCalm.concern {e : LogEvent} (h : e.IsCalm) : e.concern = .other := by
  unfold LogEvent.concern
  rcases h.level with hlevel | hlevel
  · rw [hlevel]
  · rw [hlevel]
    exact if_neg h.message

theorem ReportOf.concern {outcome : Except PublishError Unit} {e : LogEvent} (h : ReportOf outcome e) :
    e.concern = .report := by
  cases h <;> rfl

/-- Whatever is logged while messages are sent is a report. -/
theorem Reported.concern {trail : List Mark} (h : Reported trail) : ∀ e ∈ ownEvents trail, e.concern = .report := by
  intro e he
  obtain ⟨d, -, hreport⟩ := exists_of_forall₂ h.forall₂.flip he
  exact ReportOf.concern hreport

end About

/-- Of its questions, a step tells in its events: which one failed, if an answer is to blame for the result, and which
one came to nothing, if that is. There is nothing else about them. -/
structure LookupsTold (result : Except TicketError α) (calls : List TicketQuery) (events : List LogEvent) : Prop where
  failed : ∀ message, result = .error (.internal message) ∨ result = .error (.dependency message) →
    ∃ q event, calls.getLast? = some q ∧ about .failedLookup events = [event] ∧
      ("operation", q.operation) ∈ event.fields
  notFailed : (∀ message, result ≠ .error (.internal message) ∧ result ≠ .error (.dependency message)) →
    about .failedLookup events = []
  absent : ∀ message, result = .error (.notFound message) →
    ∃ q event, calls.getLast? = some q ∧ about .warning events = [event] ∧ event.message = some message ∧
      ("operation", q.operation) ∈ event.fields
  notAbsent : (∀ message, result ≠ .error (.notFound message)) → about .warning events = []

theorem Verdict.concern {q : TicketQuery} {e : TicketError} {event : LogEvent} (h : Verdict q e event) :
    event.concern = .warning ∨ event.concern = .failedLookup := by
  cases h with
  | absent message => exact .inl rfl
  | failed x => exact .inr rfl

theorem Calm.concern {trail : List Mark} (h : Calm trail) : ∀ e ∈ ownEvents trail, e.concern = .other :=
  fun e he => (h e he).concern

theorem ownEvents_verdict (before : List Mark) (q : TicketQuery) (spans : List Span) (overheard : List LogEvent)
    (event : LogEvent) : ownEvents (before ++ .asked q :: overhear spans overheard ++ [.logged event]) =
      ownEvents before ++ [event] := by
  rw [ownEvents_append, ownEvents_append]
  show ownEvents before ++ ownEvents (overhear spans overheard) ++ [event] = _
  rw [ownEvents_overhear, List.append_nil]

/-- Behind a calm beginning, the verdict is all that there is. -/
theorem about_verdict {before : List Mark} (hcalm : Calm before) {c : Concern} (hc : Concern.other ≠ c)
    (q : TicketQuery) (spans : List Span) (overheard : List LogEvent) (event : LogEvent) :
    about c (ownEvents (before ++ .asked q :: overhear spans overheard ++ [.logged event])) = about c [event] := by
  rw [ownEvents_verdict, about_append, about_eq_nil hcalm.concern hc, List.nil_append]

theorem Tells.lookupsTold {trail : List Mark} {result : Except TicketError α} (h : Tells result trail) :
    LookupsTold result (trail.filterMap Mark.query?) (ownEvents trail) := by
  cases h with
  | quiet hrefusal hcalm =>
    refine ⟨?_, fun _ => about_eq_nil hcalm.concern nofun, ?_, fun _ => about_eq_nil hcalm.concern nofun⟩
    · rintro message (rfl | rfl) <;> cases hrefusal _ rfl
    · rintro message rfl
      cases hrefusal _ rfl
  | @verdict before q e event spans overheard hcalm hverdict =>
    have hcalls : ((before ++ Mark.asked q :: overhear spans overheard ++ [Mark.logged event]).filterMap
        Mark.query?).getLast? = some q := by
      simp only [List.append_assoc, List.cons_append, List.filterMap_append, List.filterMap_cons, Mark.query?,
        filterMap_query?_overhear, List.filterMap_nil, List.nil_append, List.getLast?_concat]
    have hfailed := about_verdict hcalm (c := .failedLookup) nofun q spans overheard event
    have hwarning := about_verdict hcalm (c := .warning) nofun q spans overheard event
    cases hverdict with
    | absent message =>
      refine ⟨?_, fun _ => hfailed, ?_, fun hnot => absurd rfl (hnot message)⟩
      · intro message' h
        rcases h with h | h <;> cases h
      · rintro _ ⟨⟩
        exact ⟨q, _, hcalls, hwarning, rfl, List.mem_singleton_self _⟩
    | failed x =>
      refine ⟨?_, ?_, ?_, fun _ => hwarning⟩
      · intro message _
        exact ⟨q, _, hcalls, hfailed, List.mem_cons_self⟩
      · intro hnot
        cases x with
        | decode operation message => exact absurd rfl (hnot _).1
        | query operation message => exact absurd rfl (hnot _).2
        | timeout operation => exact absurd rfl (hnot _).2
      · intro message hx
        cases x <;> cases hx

theorem LookupsTold.append {result : Except TicketError α} {calls : List TicketQuery} {events more : List LogEvent}
    (h : LookupsTold result calls events) (hfailed : about .failedLookup more = [])
    (hwarning : about .warning more = []) : LookupsTold result calls (events ++ more) := by
  constructor
  · rw [about_append, hfailed, List.append_nil]
    exact h.failed
  · rw [about_append, hfailed, List.append_nil]
    exact h.notFailed
  · rw [about_append, hwarning, List.append_nil]
    exact h.absent
  · rw [about_append, hwarning, List.append_nil]
    exact h.notAbsent

/-! ## Whole steps -/

/-- The trail is that of the performance. Without the marks it is the log, the questions, and the messages with what
became of them. What the store and the publisher log nothing about stands in the log as the step itself logs it. -/
structure IsTrailOf (publisher : Publisher π) (begin : π) (p : Performance σ π α) (trail : List Mark) : Prop where
  events : trail.filterMap Mark.event? = p.events
  calls : trail.filterMap Mark.query? = p.calls
  deliveries : trail.filterMap Mark.delivery? = publisher.deliveries begin p.published
  own (c : Concern) : (∀ e, .overheard e ∈ trail → e.concern ≠ c) → about c p.events = about c (ownEvents trail)

/-- Where nothing about it is overheard, all that is logged about it is logged by the step itself. -/
theorem about_filterMap_event? {c : Concern} {trail : List Mark}
    (h : ∀ e, .overheard e ∈ trail → e.concern ≠ c) :
    about c (trail.filterMap Mark.event?) = about c (ownEvents trail) := by
  induction trail with
  | nil => rfl
  | cons m rest ih =>
    have hrest := ih fun e he => h e (List.mem_cons_of_mem m he)
    cases m with
    | asked q => exact hrest
    | handed m outcome => exact hrest
    | overheard e =>
      have hother : about c [e] = [] :=
        about_eq_nil (fun e' he => congrArg LogEvent.concern (List.mem_singleton.1 he)) (h e List.mem_cons_self)
      show about c ([e] ++ rest.filterMap Mark.event?) = about c (ownEvents rest)
      rw [about_append, hother, hrest, List.nil_append]
    | logged e =>
      show about c ([e] ++ rest.filterMap Mark.event?) = about c ([e] ++ ownEvents rest)
      rw [about_append, about_append, hrest]

theorem TicketService.isTrailOf (s : TicketService) (store : TicketStore σ) (publisher : Publisher π)
    (deadline : Option Nat) (state : σ × π) (plan : Plan α) :
    IsTrailOf publisher state.2 (s.perform store publisher deadline state plan)
      (s.trail store publisher deadline state plan) := by
  have hevents : (s.trail store publisher deadline state plan).filterMap Mark.event? =
      (s.perform store publisher deadline state plan).events := by
    rw [trail, List.filterMap_append, Plan.filterMap_event?_trail, Notifier.filterMap_event?_trail]
    rfl
  refine ⟨hevents, ?_, ?_, fun c h => ?_⟩
  · rw [trail, List.filterMap_append, Plan.filterMap_query?_trail, Notifier.filterMap_query?_trail,
      List.append_nil]
    rfl
  · rw [trail, List.filterMap_append, Plan.filterMap_delivery?_trail, Notifier.filterMap_delivery?_trail,
      List.nil_append]
    rfl
  · rw [← hevents]
    exact about_filterMap_event? h

/-- A step asks and tells of it, closes with some events, and then sends its messages and reports them. So among its
own events there are as many about each of these as the result, the messages and the closing say. -/
structure ToldBy (result : Except TicketError α) (closing : List LogEvent) (trail : List Mark) : Prop where
  parts : ∃ asking sending, trail = asking ++ closing.map .logged ++ sending ∧ Tells result asking ∧
    asking.filterMap Mark.delivery? = [] ∧ Reported sending
  lookups : LookupsTold result (trail.filterMap Mark.query?) (ownEvents trail)
  reports : List.Forall₂ (fun d event => ReportOf d.2 event) (trail.filterMap Mark.delivery?)
    (about .report (ownEvents trail))
  closings : about .failedRequest (ownEvents trail) = closing

section ToldBy

variable {result : Except TicketError α} {asking sending : List Mark} {closing : List LogEvent}

/-- What a step logs of its questions is about nothing else. -/
theorem Tells.about_eq_nil {c : Concern} (h : Tells result asking) (hother : c ≠ .other) (hwarning : c ≠ .warning)
    (hfailed : c ≠ .failedLookup) : about c (ownEvents asking) = [] := by
  cases h with
  | quiet _ hcalm => exact BoxOffice.about_eq_nil hcalm.concern hother.symm
  | verdict spans overheard hcalm hverdict =>
    rw [about_verdict hcalm hother.symm]
    refine List.filter_eq_nil_iff.2 fun e he => ?_
    obtain rfl := List.mem_singleton.1 he
    rcases hverdict.concern with h | h <;> rw [h]
    · simpa using hwarning.symm
    · simpa using hfailed.symm

theorem toldBy_of_parts (hasking : Tells result asking) (hasks : asking.filterMap Mark.delivery? = [])
    (hclosing : ∀ e ∈ closing, e.concern = .failedRequest) (hsending : Reported sending) :
    ToldBy result closing (asking ++ closing.map .logged ++ sending) := by
  have hown : ownEvents (asking ++ closing.map .logged ++ sending) =
      ownEvents asking ++ (closing ++ ownEvents sending) := by
    have hlogged : ownEvents (closing.map .logged) = closing := by
      simp [ownEvents, List.filterMap_map, Function.comp_def, Mark.ownEvent?]
    rw [ownEvents_append, ownEvents_append, hlogged, List.append_assoc]
  have hqueries : (asking ++ closing.map Mark.logged ++ sending).filterMap Mark.query? =
      asking.filterMap Mark.query? := by
    have hlogged : (closing.map Mark.logged).filterMap Mark.query? = [] := by simp [Mark.query?]
    rw [List.filterMap_append, List.filterMap_append, hlogged, hsending.filterMap_query?, List.append_nil,
      List.append_nil]
  have hdeliveries : (asking ++ closing.map Mark.logged ++ sending).filterMap Mark.delivery? =
      sending.filterMap Mark.delivery? := by
    have hlogged : (closing.map Mark.logged).filterMap Mark.delivery? = [] := by simp [Mark.delivery?]
    rw [List.filterMap_append, List.filterMap_append, hasks, hlogged]
    rfl
  have hreports := hsending.concern
  have hasked (c : Concern) (hother : c ≠ .other) (hwarning : c ≠ .warning) (hfailed : c ≠ .failedLookup) :
      about c (ownEvents asking) = [] := hasking.about_eq_nil hother hwarning hfailed
  have hclosed (c : Concern) (hc : Concern.failedRequest ≠ c) : about c closing = [] := about_eq_nil hclosing hc
  have hsent (c : Concern) (hc : Concern.report ≠ c) : about c (ownEvents sending) = [] :=
    about_eq_nil hreports hc
  refine ⟨⟨asking, sending, rfl, hasking, hasks, hsending⟩, ?_, ?_, ?_⟩
  · rw [hown, hqueries]
    apply hasking.lookupsTold.append
    · rw [about_append, hclosed .failedLookup (by decide), hsent .failedLookup (by decide), List.append_nil]
    · rw [about_append, hclosed .warning (by decide), hsent .warning (by decide), List.append_nil]
  · rw [hown, hdeliveries, about_append, about_append, hasked .report (by decide) (by decide) (by decide),
      hclosed .report (by decide), about_eq_self hreports]
    exact hsending.forall₂
  · rw [hown, about_append, about_append, hasked .failedRequest (by decide) (by decide) (by decide),
      about_eq_self hclosing, hsent .failedRequest (by decide), List.nil_append, List.append_nil]

end ToldBy

/-- The trail of a plan that tells, followed by that of the sending, tells of the whole step. -/
theorem TicketService.toldBy (s : TicketService) (store : TicketStore σ) (publisher : Publisher π)
    (deadline : Option Nat) (state : σ × π) {plan : Plan α} (h : plan.Tells) :
    ToldBy (s.perform store publisher deadline state plan).result [] (s.trail store publisher deadline state plan) := by
  have htold := toldBy_of_parts (h store deadline 0 state.1)
    (plan.filterMap_delivery?_trail store deadline 0 state.1)
    (show ∀ e ∈ ([] : List LogEvent), e.concern = .failedRequest from nofun)
    (s.notifier.reported_trail publisher state.2 (plan.run store deadline 0 state.1).announcements)
  rw [List.map_nil, List.append_nil] at htold
  exact htold

end BoxOffice
