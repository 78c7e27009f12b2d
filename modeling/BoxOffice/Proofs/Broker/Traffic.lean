import BoxOffice.Broker.Redis

/-!
# Traffic with a server

A recording server answers as the server does, and writes down what it is asked (`step_recording`, `record_step`).
What one stage of a publish does is settled by the connection that is kept and by the answer of the server
(`Advances`).
-/

namespace BoxOffice

/-- What a server is asked, with its answer. -/
inductive Exchange where
  | connect (answer : Except String ConnectionId)
  | send (c : ConnectionId) (m : Message) (answer : Except String Int64)

namespace RedisServer

variable {ρ : Type}

/-- The server with a record of what it is asked, the latest last. -/
def recording (s : RedisServer ρ) : RedisServer (ρ × List Exchange) where
  connect r :=
    let (server, answer) := s.connect r.1
    ((server, r.2 ++ [.connect answer]), answer)
  send r c m :=
    let (server, answer) := s.send r.1 c m
    ((server, r.2 ++ [.send c m answer]), answer)

end RedisServer

/-- One stage of a publish: from the connection that is kept and the stage reached, to the connection that is kept
then, what the server is asked, and the stage reached then. -/
inductive Advances : Option ConnectionId → Publishing → Option ConnectionId → List Exchange → Publishing → Prop where
  | reused (c : ConnectionId) (m : Message) : Advances (some c) (.waiting m) (some c) [] (.connected c m)
  | opened (c : ConnectionId) (m : Message) :
    Advances none (.waiting m) (some c) [.connect (.ok c)] (.connected c m)
  | refused (m : Message) (e : String) :
    Advances none (.waiting m) none [.connect (.error e)] (.finished (.error (.transport e)))
  | delivered (kept : Option ConnectionId) (c : ConnectionId) (m : Message) (receivers : Int64) :
    Advances kept (.connected c m) kept [.send c m (.ok receivers)] (.finished (.ok ()))
  | lost (kept : Option ConnectionId) (c : ConnectionId) (m : Message) (e : String) :
    Advances kept (.connected c m) kept [.send c m (.error e)] (.failing c e)
  | forgotten (kept : Option ConnectionId) (c : ConnectionId) (e : String) :
    Advances kept (.failing c e) none [] (.finished (.error (.transport e)))
  | settled (kept : Option ConnectionId) (outcome : Except PublishError Unit) :
    Advances kept (.finished outcome) kept [] (.finished outcome)

namespace RedisPublisher

variable {ρ : Type}

/-- The publisher whose server starts to record. -/
def recorded (p : RedisPublisher ρ) : RedisPublisher (ρ × List Exchange) := ⟨(p.server, []), p.connection⟩

/-- The publisher whose server records no more. -/
def unrecorded (p : RedisPublisher (ρ × List Exchange)) : RedisPublisher ρ := ⟨p.server.1, p.connection⟩

/-- What the server of a publisher was asked. -/
def record (p : RedisPublisher (ρ × List Exchange)) : List Exchange := p.server.2

@[simp] theorem unrecorded_recorded (p : RedisPublisher ρ) : p.recorded.unrecorded = p := rfl

@[simp] theorem record_recorded (p : RedisPublisher ρ) : p.recorded.record = [] := rfl

variable (s : RedisServer ρ)

/-- What the server is asked in one stage of a publish. -/
def asked (p : RedisPublisher ρ) (stage : Publishing) : List Exchange :=
  (p.recorded.step s.recording stage).1.record

/-- What the server is asked in a publish. -/
def askedFor (p : RedisPublisher ρ) (m : Message) : List Exchange :=
  (p.recorded.publish s.recording m).1.record

theorem advances (p : RedisPublisher ρ) (stage : Publishing) :
    Advances p.connection stage (p.step s stage).1.connection (p.asked s stage) (p.step s stage).2 := by
  obtain ⟨server, kept⟩ := p
  unfold asked record recorded
  cases stage with
  | waiting m =>
    cases kept with
    | some c => exact .reused c m
    | none =>
      rcases hconnect : s.connect server with ⟨server', e | c⟩ <;>
        simp only [step, acquire, RedisServer.recording, hconnect]
      · exact .refused m e
      · exact .opened c m
  | connected c m =>
    rcases hsend : s.send server c m with ⟨server', e | receivers⟩ <;>
      simp only [step, deliver, RedisServer.recording, hsend]
    · exact .lost kept c m e
    · exact .delivered kept c m receivers
  | failing c e => exact .forgotten kept c e
  | finished outcome => exact .settled kept outcome

section Recording

variable (p : RedisPublisher (ρ × List Exchange))

/-- Recording makes no difference to a stage. -/
theorem step_recording (stage : Publishing) :
    p.unrecorded.step s stage =
      ((p.step s.recording stage).1.unrecorded, (p.step s.recording stage).2) := by
  obtain ⟨⟨server, before⟩, kept⟩ := p
  cases stage with
  | waiting m =>
    cases kept with
    | some c => rfl
    | none =>
      rcases hconnect : s.connect server with ⟨server', e | c⟩ <;>
        simp [step, acquire, unrecorded, RedisServer.recording, hconnect]
  | connected c m =>
    rcases hsend : s.send server c m with ⟨server', e | receivers⟩ <;>
      simp [step, deliver, unrecorded, RedisServer.recording, hsend]
  | failing c e => rfl
  | finished outcome => rfl

/-- What is asked in a stage comes behind what was asked before. -/
theorem record_step (stage : Publishing) :
    (p.step s.recording stage).1.record = p.record ++ p.unrecorded.asked s stage := by
  obtain ⟨⟨server, before⟩, kept⟩ := p
  unfold asked record recorded unrecorded
  cases stage with
  | waiting m =>
    cases kept with
    | some c => exact (List.append_nil before).symm
    | none =>
      rcases hconnect : s.connect server with ⟨server', e | c⟩ <;>
        simp [step, acquire, RedisServer.recording, hconnect]
  | connected c m =>
    rcases hsend : s.send server c m with ⟨server', e | receivers⟩ <;>
      simp [step, deliver, RedisServer.recording, hsend]
  | failing c e => exact (List.append_nil before).symm
  | finished outcome => exact (List.append_nil before).symm

/-- Recording makes no difference to a publish. -/
theorem publish_recording (m : Message) :
    (p.unrecorded.publish s m).1 = (p.publish s.recording m).1.unrecorded ∧
      (p.unrecorded.publish s m).2.outcome = (p.publish s.recording m).2.outcome := by
  have hplain := step_step_step s p.unrecorded m
  have hrecording := step_step_step s.recording p m
  dsimp only at hplain hrecording
  rw [step_recording, step_recording, step_recording, hrecording] at hplain
  simpa using hplain.symm

/-- What is asked in a publish is what is asked in its stages. -/
theorem record_publish_eq_stages (m : Message) :
    let (p₁, stage₁) := p.unrecorded.step s (.waiting m)
    let (p₂, stage₂) := p₁.step s stage₁
    (p.publish s.recording m).1.record =
      p.record ++ (p.unrecorded.asked s (.waiting m) ++ p₁.asked s stage₁ ++ p₂.asked s stage₂) := by
  have hsteps := step_step_step s.recording p m
  dsimp only at hsteps ⊢
  rw [← congrArg (fun x => record x.1) hsteps, record_step, record_step, record_step, step_recording, step_recording]
  simp only [List.append_assoc]

/-- What is asked in a publish comes behind what was asked before. -/
theorem record_publish (m : Message) :
    (p.publish s.recording m).1.record = p.record ++ p.unrecorded.askedFor s m := by
  rw [record_publish_eq_stages]
  unfold askedFor
  rw [record_publish_eq_stages]
  simp

end Recording

end RedisPublisher

end BoxOffice
