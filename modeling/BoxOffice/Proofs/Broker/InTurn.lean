import BoxOffice.Proofs.Broker.Traffic

/-!
# Messages published in turn

Messages are published on a server, one call after another.

1. A call goes one of five ways (`Conduct`), by the connection that is kept and the answers of the server.
2. Whether a connection is kept before a call is settled by the outcome of the call before it, so that each
   call is bound to the one before it (`PublishCall.Follows`).
3. What the server is asked in a whole run is what it is asked in the calls, one after another
   (`publishes_in_turn`).
-/

namespace BoxOffice

/-! ## One call -/

/-- How the publish of a message goes: from the connection that is kept before, to the connection that is kept
after it, what the server is asked, and the outcome. -/
inductive Conduct (m : Message) :
    Option ConnectionId → Option ConnectionId → List Exchange → Except PublishError Unit → Prop where
  | refused (e : String) : Conduct m none none [.connect (.error e)] (.error (.transport e))
  | openedDelivered (c : ConnectionId) (receivers : Int64) :
    Conduct m none (some c) [.connect (.ok c), .send c m (.ok receivers)] (.ok ())
  | openedLost (c : ConnectionId) (e : String) :
    Conduct m none none [.connect (.ok c), .send c m (.error e)] (.error (.transport e))
  | delivered (c : ConnectionId) (receivers : Int64) :
    Conduct m (some c) (some c) [.send c m (.ok receivers)] (.ok ())
  | lost (c : ConnectionId) (e : String) :
    Conduct m (some c) none [.send c m (.error e)] (.error (.transport e))

/-- Three stages make a publish. -/
theorem Advances.conduct {m : Message} {kept kept₁ kept₂ kept₃ : Option ConnectionId}
    {stage₁ stage₂ : Publishing} {asked₁ asked₂ asked₃ : List Exchange}
    {outcome : Except PublishError Unit} (h₁ : Advances kept (.waiting m) kept₁ asked₁ stage₁)
    (h₂ : Advances kept₁ stage₁ kept₂ asked₂ stage₂)
    (h₃ : Advances kept₂ stage₂ kept₃ asked₃ (.finished outcome)) :
    Conduct m kept kept₃ (asked₁ ++ asked₂ ++ asked₃) outcome := by
  cases h₁ with
  | refused m e =>
    cases h₂
    cases h₃
    exact .refused e
  | opened c m =>
    cases h₂ with
    | delivered _ _ _ receivers =>
      cases h₃
      exact .openedDelivered c receivers
    | lost _ _ _ e =>
      cases h₃
      exact .openedLost c e
  | reused c m =>
    cases h₂ with
    | delivered _ _ _ receivers =>
      cases h₃
      exact .delivered c receivers
    | lost _ _ _ e =>
      cases h₃
      exact .lost c e

theorem RedisPublisher.conduct {ρ : Type} (s : RedisServer ρ) (p : RedisPublisher ρ) (m : Message) :
    Conduct m p.connection (p.publish s m).1.connection (p.askedFor s m) (p.publish s m).2.outcome := by
  have hsteps := p.step_step_step s m
  have hasked := p.recorded.record_publish_eq_stages s m
  dsimp only at hsteps hasked
  have h₁ := p.advances s (.waiting m)
  have h₂ := (p.step s (.waiting m)).1.advances s (p.step s (.waiting m)).2
  have h₃ := ((p.step s (.waiting m)).1.step s (p.step s (.waiting m)).2).1.advances s
    ((p.step s (.waiting m)).1.step s (p.step s (.waiting m)).2).2
  rw [hsteps] at h₃
  rw [RedisPublisher.askedFor, hasked]
  exact h₁.conduct h₂ h₃

/-! ## Calls in turn -/

/-- The answer to an attempt to connect. -/
def Exchange.attempt? : Exchange → Option (Except String ConnectionId)
  | .connect answer => some answer
  | .send _ _ _ => none

/-- A message that was sent, with its connection and the answer to it. -/
structure Sending where
  connection : ConnectionId
  message : Message
  answer : Except String Int64

/-- The message that was sent. -/
def Exchange.sending? : Exchange → Option Sending
  | .connect _ => none
  | .send c m answer => some ⟨c, m, answer⟩

/-- A publish, with what the server is asked during it, how it ends, and the connection that is kept then. -/
structure PublishCall where
  message : Message
  asked : List Exchange
  outcome : Except PublishError Unit
  kept : Option ConnectionId

namespace PublishCall

/-- The attempts to connect that a call makes. -/
def attempts (call : PublishCall) : List (Except String ConnectionId) :=
  call.asked.filterMap Exchange.attempt?

/-- The messages that a call sends. -/
def sendings (call : PublishCall) : List Sending := call.asked.filterMap Exchange.sending?

/-- The call does not fail to connect. -/
def reached (call : PublishCall) : Bool := call.attempts.all Except.isOk

/-- How a call goes after the one before it. -/
structure Follows (previous : Option PublishCall) (call : PublishCall) : Prop where
  kept_iff : call.kept ≠ none ↔ call.outcome = .ok ()
  attempts_length_le : call.attempts.length ≤ 1
  attempts_eq_nil_iff : call.attempts = [] ↔ ∃ before ∈ previous, before.outcome = .ok ()
  sendings_of_reached : call.reached = true →
    ∃ c answer, call.sendings = [⟨c, call.message, answer⟩] ∧
      (call.attempts = [.ok c] ∨ ∃ before ∈ previous, before.kept = some c)
  sendings_of_unreached : call.reached = false → call.sendings = []
  ok_iff : call.outcome = .ok () ↔ ∃ c receivers, call.sendings = [⟨c, call.message, .ok receivers⟩]
  transport : call.outcome = .ok () ∨ ∃ e, call.outcome = .error (.transport e)

/-- Each of the calls follows the one before it. -/
def FollowOn (previous : Option PublishCall) : List PublishCall → Prop
  | [] => True
  | call :: later => call.Follows previous ∧ FollowOn (some call) later

/-- A connection is kept before a call exactly if there is a call before it and that one succeeded. -/
theorem Follows.of_conduct {previous : Option PublishCall} {m : Message} {kept : Option ConnectionId}
    {asked : List Exchange} {outcome : Except PublishError Unit}
    (hprevious : ∀ before ∈ previous, before.kept ≠ none ↔ before.outcome = .ok ())
    (h : Conduct m (previous.bind PublishCall.kept) kept asked outcome) :
    Follows previous ⟨m, asked, outcome, kept⟩ := by
  have hsucceeded : (∃ before ∈ previous, before.outcome = .ok ()) ↔ previous.bind PublishCall.kept ≠ none := by
    cases previous with
    | none => simp
    | some before => simpa using (hprevious before rfl).symm
  have hcached : ∀ c, previous.bind PublishCall.kept = some c → ∃ before ∈ previous, before.kept = some c :=
    fun c hc => Option.bind_eq_some_iff.1 hc
  generalize previous.bind PublishCall.kept = before at h hsucceeded hcached
  cases h with
  | refused e =>
    have hfirst := mt hsucceeded.1 (not_not_intro rfl)
    exact {
      kept_iff := ⟨fun h => absurd rfl h, nofun⟩
      attempts_length_le := Nat.le_refl 1
      attempts_eq_nil_iff := iff_of_false (List.cons_ne_nil _ _) hfirst
      sendings_of_reached := nofun
      sendings_of_unreached := fun _ => rfl
      ok_iff := ⟨nofun, by rintro ⟨_, _, ⟨⟩⟩⟩
      transport := .inr ⟨e, rfl⟩ }
  | openedDelivered c receivers =>
    have hfirst := mt hsucceeded.1 (not_not_intro rfl)
    exact {
      kept_iff := ⟨fun _ => rfl, fun _ => Option.some_ne_none c⟩
      attempts_length_le := Nat.le_refl 1
      attempts_eq_nil_iff := iff_of_false (List.cons_ne_nil _ _) hfirst
      sendings_of_reached := fun _ => ⟨c, .ok receivers, rfl, .inl rfl⟩
      sendings_of_unreached := nofun
      ok_iff := ⟨fun _ => ⟨c, receivers, rfl⟩, fun _ => rfl⟩
      transport := .inl rfl }
  | openedLost c e =>
    have hfirst := mt hsucceeded.1 (not_not_intro rfl)
    exact {
      kept_iff := ⟨fun h => absurd rfl h, nofun⟩
      attempts_length_le := Nat.le_refl 1
      attempts_eq_nil_iff := iff_of_false (List.cons_ne_nil _ _) hfirst
      sendings_of_reached := fun _ => ⟨c, .error e, rfl, .inl rfl⟩
      sendings_of_unreached := nofun
      ok_iff := ⟨nofun, by rintro ⟨_, _, ⟨⟩⟩⟩
      transport := .inr ⟨e, rfl⟩ }
  | delivered c receivers =>
    have hlater := hsucceeded.2 (Option.some_ne_none c)
    exact {
      kept_iff := ⟨fun _ => rfl, fun _ => Option.some_ne_none c⟩
      attempts_length_le := Nat.zero_le 1
      attempts_eq_nil_iff := iff_of_true rfl hlater
      sendings_of_reached := fun _ => ⟨c, .ok receivers, rfl, .inr (hcached c rfl)⟩
      sendings_of_unreached := nofun
      ok_iff := ⟨fun _ => ⟨c, receivers, rfl⟩, fun _ => rfl⟩
      transport := .inl rfl }
  | lost c e =>
    have hlater := hsucceeded.2 (Option.some_ne_none c)
    exact {
      kept_iff := ⟨fun h => absurd rfl h, nofun⟩
      attempts_length_le := Nat.zero_le 1
      attempts_eq_nil_iff := iff_of_true rfl hlater
      sendings_of_reached := fun _ => ⟨c, .error e, rfl, .inr (hcached c rfl)⟩
      sendings_of_unreached := nofun
      ok_iff := ⟨nofun, by rintro ⟨_, _, ⟨⟩⟩⟩
      transport := .inr ⟨e, rfl⟩ }

end PublishCall

/-! ## Runs -/

namespace RedisPublisher

variable {ρ : Type} (s : RedisServer ρ)

/-- Publishes messages one after another. -/
def publishAll : RedisPublisher ρ → List Message → RedisPublisher ρ × List Receipt
  | p, [] => (p, [])
  | p, m :: ms =>
    let (p, receipt) := p.publish s m
    let (p, receipts) := publishAll p ms
    (p, receipt :: receipts)

/-- The publish of a message as a call. -/
def call (p : RedisPublisher ρ) (m : Message) : PublishCall where
  message := m
  asked := p.askedFor s m
  outcome := (p.publish s m).2.outcome
  kept := (p.publish s m).1.connection

/-- The calls in which messages are published one after another. -/
def calls : RedisPublisher ρ → List Message → List PublishCall
  | _, [] => []
  | p, m :: ms => p.call s m :: calls (p.publish s m).1 ms

theorem message_calls (p : RedisPublisher ρ) (ms : List Message) :
    (p.calls s ms).map PublishCall.message = ms := by
  induction ms generalizing p with
  | nil => rfl
  | cons m ms ih => exact congrArg (m :: ·) (ih (p.publish s m).1)

theorem outcome_calls (p : RedisPublisher ρ) (ms : List Message) :
    (p.calls s ms).map PublishCall.outcome = (p.publishAll s ms).2.map Receipt.outcome := by
  induction ms generalizing p with
  | nil => rfl
  | cons m ms ih => exact congrArg ((p.publish s m).2.outcome :: ·) (ih (p.publish s m).1)

/-- What the server is asked in a run is what it is asked in the calls. -/
theorem record_publishAll (p : RedisPublisher (ρ × List Exchange)) (ms : List Message) :
    (p.publishAll s.recording ms).1.record =
      p.record ++ (p.unrecorded.calls s ms).flatMap PublishCall.asked := by
  induction ms generalizing p with
  | nil => exact (List.append_nil p.record).symm
  | cons m ms ih =>
    show ((p.publish s.recording m).1.publishAll s.recording ms).1.record = _
    rw [ih, record_publish, ← (publish_recording s p m).1, List.append_assoc]
    rfl

/-- Each call follows the one before it, if what is kept before them is what that one kept. -/
theorem followOn_calls {previous : Option PublishCall}
    (hprevious : ∀ before ∈ previous, before.kept ≠ none ↔ before.outcome = .ok ())
    (p : RedisPublisher ρ) (hkept : p.connection = previous.bind PublishCall.kept) (ms : List Message) :
    PublishCall.FollowOn previous (p.calls s ms) := by
  induction ms generalizing p previous with
  | nil => trivial
  | cons m ms ih =>
    have hfollows : (p.call s m).Follows previous := by
      have hconduct := p.conduct s m
      rw [hkept] at hconduct
      exact .of_conduct hprevious hconduct
    refine ⟨hfollows, ih ?_ (p.publish s m).1 rfl⟩
    rintro _ ⟨⟩
    exact hfollows.kept_iff

end RedisPublisher

/-- A call sends its message once if it does not fail to connect, and else not at all. -/
theorem PublishCall.Follows.messages {previous : Option PublishCall} {call : PublishCall}
    (h : call.Follows previous) :
    call.sendings.map Sending.message = if call.reached then [call.message] else [] := by
  by_cases hreached : call.reached
  · obtain ⟨c, answer, hsent, -⟩ := h.sendings_of_reached hreached
    rw [hsent, if_pos hreached]
    rfl
  · rw [h.sendings_of_unreached (Bool.eq_false_iff.2 hreached), if_neg hreached]
    rfl

/-- The messages that a server is sent are those of the calls that do not fail to connect. -/
theorem PublishCall.FollowOn.messages {previous : Option PublishCall} {calls : List PublishCall}
    (h : FollowOn previous calls) :
    (calls.flatMap sendings).map Sending.message = (calls.filter reached).map PublishCall.message := by
  induction calls generalizing previous with
  | nil => rfl
  | cons call later ih =>
    rw [List.flatMap_cons, List.map_append, h.1.messages, ih h.2, List.filter_cons]
    split <;> rfl

/-- Whatever a server answers, each call of a run follows the one before it, and the server is sent the messages of
the calls that do not fail to connect, in their order and once each. -/
theorem publishes_in_turn {ρ : Type} (s : RedisServer ρ) (server : ρ) (ms : List Message) :
    let p := RedisPublisher.disconnected server
    let calls := p.calls s ms
    let asked := (p.recorded.publishAll s.recording ms).1.record
    calls.map PublishCall.message = ms ∧
    calls.map PublishCall.outcome = (p.publishAll s ms).2.map Receipt.outcome ∧
    asked = calls.flatMap PublishCall.asked ∧
    PublishCall.FollowOn none calls ∧
    (asked.filterMap Exchange.sending?).map Sending.message =
      (calls.filter PublishCall.reached).map PublishCall.message := by
  intro p calls asked
  have hasked : asked = calls.flatMap PublishCall.asked := p.recorded.record_publishAll s ms
  have hfollow : PublishCall.FollowOn none calls := p.followOn_calls s (by rintro _ ⟨⟩) rfl ms
  refine ⟨p.message_calls s ms, p.outcome_calls s ms, hasked, hfollow, ?_⟩
  rw [hasked, List.filterMap_flatMap]
  exact hfollow.messages

end BoxOffice
