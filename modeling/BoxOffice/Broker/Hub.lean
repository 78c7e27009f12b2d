import BoxOffice.Broker.Message

/-!
# The publisher in memory

A `Hub` keeps every message that was published, and delivers a copy to each live subscription. What waits for
a subscription is what was published after it was made and not yet received. That a subscription was dropped is
found out by the next delivery to it.
-/

namespace BoxOffice

/-- All messages, the oldest first; the subscriptions in the order in which they were made, each with what
waits for it, or `none` once it was dropped; and the numbers of the subscriptions that messages go to. -/
structure Hub where
  published : List Message
  subscriptions : List (Option (List Message))
  recipients : List Nat
  deriving Repr, DecidableEq

/-- What a subscriber gets who asks for a message. -/
inductive Receive where
  | message (m : Message)
  | pending
  | noSubscription
  deriving Repr, DecidableEq

namespace Hub

/-- No message and no subscription. -/
def empty : Hub := ⟨[], [], []⟩

/-- Makes a subscription; it is known by its number from then on. -/
def subscribe (h : Hub) : Hub × Nat :=
  let sub := h.subscriptions.length
  ({ h with
      subscriptions := h.subscriptions ++ [some []]
      recipients := h.recipients ++ [sub] }, sub)

/-- What waits for a live subscription. -/
def waiting? (h : Hub) (sub : Nat) : Option (List Message) := h.subscriptions[sub]?.join

/-- Drops a subscription, and tells whether it was live. -/
def unsubscribe (h : Hub) (sub : Nat) : Hub × Bool :=
  match h.waiting? sub with
  | some _ => ({ h with subscriptions := h.subscriptions.set sub none }, true)
  | none => (h, false)

/-- Takes the next message that waits for a subscription. -/
def receive (h : Hub) (sub : Nat) : Hub × Receive :=
  match h.waiting? sub with
  | some (m :: rest) => ({ h with subscriptions := h.subscriptions.set sub (some rest) }, .message m)
  | some [] => (h, .pending)
  | none => (h, .noSubscription)

/-- Delivers a message to a subscription, and tells whether it is live. -/
def deliver (h : Hub) (m : Message) (sub : Nat) : Hub × Bool :=
  match h.waiting? sub with
  | some queue =>
    ({ h with subscriptions := h.subscriptions.set sub (some (queue ++ [m])) }, true)
  | none => (h, false)

/-- Delivers a message to subscriptions one after another, and gives those that are live. -/
def deliverAll (h : Hub) (m : Message) : List Nat → Hub × List Nat
  | [] => (h, [])
  | sub :: rest =>
    let (h, live) := h.deliver m sub
    let (h, kept) := h.deliverAll m rest
    (h, if live then sub :: kept else kept)

/-- Keeps a message and delivers it to the recipients. Those that were dropped get no more messages. -/
def publish (h : Hub) (m : Message) : Hub :=
  let (h, kept) := { h with published := h.published ++ [m] }.deliverAll m h.recipients
  { h with recipients := kept }

/-- The hub as a publisher; no message is refused. -/
def publisher : Publisher Hub where
  publish h m := (h.publish m, ⟨.ok (), [.of .debug "message published in memory" [("topic", m.topic)]]⟩)

end Hub

end BoxOffice
