import BoxOffice.Broker.Message
import BoxOffice.Text.Blank
import BoxOffice.Text.Numeral

/-!
# The publisher on a server

1. A server accepts connections and answers each message with the number of receivers, or fails.
2. A `RedisPublisher` keeps one connection for all messages. A publish goes through the stages of a
   `Publishing`: take the connection, or open and keep one; send the message on it; on failure forget the
   connection. Stages of several publishes may interleave (`step`).
3. `RedisPublisher.publish` runs the stages of one message after another (`step_step_step`).
4. `receivers?` reads the number of receivers from the reply of a server.
-/

namespace BoxOffice

open BoxOffice.Text

/-! ## Servers -/

/-- Names a connection. -/
abbrev ConnectionId := Nat

/-- A server with states `ρ`: whether it accepts a connection, and how it answers a message on one. Failures
are told as a text. -/
structure RedisServer (ρ : Type) where
  connect : ρ → ρ × Except String ConnectionId
  send : ρ → ConnectionId → Message → ρ × Except String Int64

/-! ## Stages of a publish -/

/-- The server, and the connection that is kept. -/
structure RedisPublisher (ρ : Type) where
  server : ρ
  connection : Option ConnectionId

/-- How far the publish of a message has come. -/
inductive Publishing where
  | waiting (m : Message)
  | connected (c : ConnectionId) (m : Message)
  | failing (c : ConnectionId) (error : String)
  | finished (outcome : Except PublishError Unit)

namespace RedisPublisher

variable {ρ : Type}

/-- A publisher without a connection. -/
def disconnected (server : ρ) : RedisPublisher ρ := ⟨server, none⟩

/-- Takes the connection that is kept, or opens one and keeps it. -/
def acquire (s : RedisServer ρ) (p : RedisPublisher ρ) :
    RedisPublisher ρ × Except String ConnectionId × List LogEvent :=
  match p.connection with
  | some c => (p, .ok c, [])
  | none =>
    match s.connect p.server with
    | (server, .ok c) => (⟨server, some c⟩, .ok c, [.of .debug "opened redis connection" []])
    | (server, .error e) => (⟨server, none⟩, .error e, [])

/-- Sends a message on a connection. -/
def deliver (s : RedisServer ρ) (p : RedisPublisher ρ) (c : ConnectionId) (m : Message) :
    RedisPublisher ρ × Except String Unit × List LogEvent :=
  match s.send p.server c m with
  | (server, .ok receivers) =>
    ({ p with server }, .ok (),
      [.of .debug "published to redis" [("topic", m.topic), ("receivers", intText receivers.toInt)]])
  | (server, .error e) => ({ p with server }, .error e, [])

/-- Forgets the connection that is kept. -/
def forget (p : RedisPublisher ρ) : RedisPublisher ρ := { p with connection := none }

/-- One stage of a publish. A finished one stays as it is. -/
def step (s : RedisServer ρ) (p : RedisPublisher ρ) : Publishing → RedisPublisher ρ × Publishing
  | .waiting m =>
    match p.acquire s with
    | (p, .ok c, _) => (p, .connected c m)
    | (p, .error e, _) => (p, .finished (.error (.transport e)))
  | .connected c m =>
    match p.deliver s c m with
    | (p, .ok (), _) => (p, .finished (.ok ()))
    | (p, .error e, _) => (p, .failing c e)
  | .failing _ e => (p.forget, .finished (.error (.transport e)))
  | .finished outcome => (p, .finished outcome)

/-- All stages of one publish. -/
def publish (s : RedisServer ρ) (p : RedisPublisher ρ) (m : Message) : RedisPublisher ρ × Receipt :=
  match p.acquire s with
  | (p, .error e, acquired) => (p, ⟨.error (.transport e), acquired⟩)
  | (p, .ok c, acquired) =>
    match p.deliver s c m with
    | (p, .ok (), sent) => (p, ⟨.ok (), acquired ++ sent⟩)
    | (p, .error e, sent) => (p.forget, ⟨.error (.transport e), acquired ++ sent⟩)

/-- A publish is finished after three stages, with the outcome of its receipt. -/
theorem step_step_step (s : RedisServer ρ) (p : RedisPublisher ρ) (m : Message) :
    let (p₁, stage₁) := p.step s (.waiting m)
    let (p₂, stage₂) := p₁.step s stage₁
    p₂.step s stage₂ = ((p.publish s m).1, .finished (p.publish s m).2.outcome) := by
  rcases ha : p.acquire s with ⟨p₁, e | c, acquired⟩
  · simp [step, publish, ha]
  · rcases hd : p₁.deliver s c m with ⟨p₂, e | u, sent⟩ <;> simp [step, publish, ha, hd]

/-- The publisher on a server. -/
def publisher (s : RedisServer ρ) : Publisher (RedisPublisher ρ) := ⟨publish s⟩

end RedisPublisher

/-! ## Replies -/

/-- Cuts a text at its first line end. -/
def cutLine : List Char → Option (List Char × List Char)
  | '\r' :: '\n' :: rest => some ([], rest)
  | c :: rest => (cutLine rest).map fun (line, rest) => (c :: line, rest)
  | [] => none

/-- The number of receivers in a reply, given without its last line end: an integer, or an integer as the
text of a status or of a bulk string. -/
def receivers? (reply : String) : Option Int64 := do
  let (line, rest) ← cutLine (reply.toList ++ ['\r', '\n'])
  match line with
  | ':' :: number => int64Of? (trimChars number)
  | '+' :: status => int64Of? status
  | '$' :: length =>
    let length ← int64Of? (trimChars length)
    let size := length.toInt.toNat
    if 0 ≤ length && ['\r', '\n'].isPrefixOf (rest.drop size) then int64Of? (rest.take size)
    else none
  | _ => none

/-! ## Scripted servers -/

/-- A server whose replies are written down beforehand. It is down, or accepts every connection; a reply of
`none` closes the connection. It keeps the messages that it was sent. -/
structure ScriptedRedis where
  up : Bool
  replies : List (Option String)
  connections : Nat
  messages : List Message

namespace ScriptedRedis

/-- What a caller is told whom the server does not accept. -/
def refused : String := "Connection refused (os error 111)"

/-- Gives the next reply to each message; one that is no number of receivers is a failure. -/
def server : RedisServer ScriptedRedis where
  connect s :=
    if s.up then ({ s with connections := s.connections + 1 }, .ok s.connections)
    else (s, .error refused)
  send s _ m :=
    ({ s with replies := s.replies.drop 1, messages := s.messages ++ [m] },
      match s.replies.head?.join with
      | none => .error "connection closed"
      | some reply =>
        match receivers? reply with
        | some n => .ok n
        | none => .error "unexpected reply")

end ScriptedRedis

end BoxOffice
