import BoxOffice.Broker.Message
import BoxOffice.Service.Plan

/-!
# The notifier

A `Notifier` sends switch notifications as messages for one topic. Nobody waits for the outcome; it is
logged, and a failure changes nothing else.
-/

namespace BoxOffice

open BoxOffice.Text

/-- Sends switch notifications for a topic. -/
structure Notifier where
  topic : String
  deriving Repr, DecidableEq

namespace Notifier

/-- The notifier for the usual topic. -/
def standard : Notifier := ⟨standardTopic⟩

/-- A notifier as the log shows it. -/
def text (n : Notifier) : String :=
  "SwitchNotifier \x7b topic: " ++ quoted n.topic ++ ", .. \x7d"

/-- The message that carries a notification. -/
def message (n : Notifier) (s : SwitchNotification) : Message := ⟨n.topic, s.payload⟩

/-- The span in which a notification is sent. -/
def span (n : Notifier) (s : SwitchNotification) : Span :=
  ⟨"switch_notification",
    [("topic", n.topic), ("tag", s.tag.text), ("country_code", s.countryCode.text)]⟩

/-- What is logged about the outcome. -/
def report : Except PublishError Unit → LogEvent
  | .ok () => .of .info "sent switch-to-online notification" []
  | .error e => .of .error "switch-to-online notification failed" [("error", e.text)]

/-- Sends a notification. -/
def send {π : Type} (n : Notifier) (p : Publisher π) (state : π) (a : Announcement) :
    π × List LogEvent :=
  let (state, receipt) := p.publish state (n.message a.notification)
  let spans := a.spans ++ [n.span a.notification]
  (state, (receipt.events ++ [report receipt.outcome]).map (LogEvent.within spans))

/-- Sends notifications one after another. -/
def sendAll {π : Type} (n : Notifier) (p : Publisher π) (state : π) :
    List Announcement → π × List LogEvent
  | [] => (state, [])
  | a :: rest =>
    let (state, events) := n.send p state a
    let (state, more) := n.sendAll p state rest
    (state, events ++ more)

/-- What is logged when a notification is dropped because nothing runs that could send it. -/
def dropped (s : SwitchNotification) : LogEvent :=
  .of .warn "no async runtime; switch notification dropped" [("notification", s.logText)]

/-- Sends a notification if there is something that runs it, and tells whether. -/
def dispatch {π : Type} (n : Notifier) (p : Publisher π) (running : Bool) (state : π)
    (s : SwitchNotification) : π × Bool × List LogEvent :=
  if running then
    let (state, events) := n.send p state ⟨s, []⟩
    (state, true, events)
  else (state, false, [dropped s])

end Notifier

end BoxOffice
