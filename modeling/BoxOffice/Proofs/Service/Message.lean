import BoxOffice.Proofs.Ticket.Wire
import BoxOffice.Service.Notifier

/-!
# What a message carries

A message says that the tickets of a tag are exhausted in a country. It carries a notification if whoever reads
its payload has the notification, from the text or from the bytes of the text, and finds the tag and the
country under their names in the JSON object that the payload is.

1. The message of a notification carries the notification (`carries_message`).
2. Notifications with one payload are the same (`payload_eq_iff`).
-/

namespace BoxOffice

open BoxOffice.Json BoxOffice.Text

/-- The message is for the topic, and its payload is read as the notification, from the text and from the bytes of
the text. As a JSON object it names the tag and the country. -/
structure Message.Carries (topic : String) (n : SwitchNotification) (m : Message) : Prop where
  topic : m.topic = topic
  text : (Reading.ofText m.payload).decode SwitchNotification.decode = .ok n
  bytes : (Reading.ofBytes (Utf8.encode m.payload)).decode SwitchNotification.decode = .ok n
  members : Value.ofText m.payload =
    .ok (.object [("countryCode", .string n.countryCode.text), ("tag", .string n.tag.text)])

/-- Members are read in the order of their names. -/
theorem SwitchNotification.ordered_toValue (n : SwitchNotification) : n.toValue.ordered =
    .object [("countryCode", .string n.countryCode.text), ("tag", .string n.tag.text)] := by
  have hne : "countryCode" ≠ "tag" := by decide
  have hlt : "countryCode" < "tag" := by decide
  simp [toValue, Value.ordered, orderedMembers, orderMembers, insertMember, hne, hlt]

theorem carries_message (notifier : Notifier) (n : SwitchNotification) :
    (notifier.message n).Carries notifier.topic n where
  topic := rfl
  text := n.readsBack.text
  bytes := n.readsBack.bytes
  members := by
    have hdepth : n.toValue.depth ≤ greatestDepth := by
      simp [SwitchNotification.toValue, Value.depth, depthOfMembers, greatestDepth]
    rw [← n.ordered_toValue]
    exact Value.ofText_text rfl hdepth

/-- Messages of notifications carry them, one by one. -/
theorem forall₂_carries_message (notifier : Notifier) (ns : List SwitchNotification) :
    List.Forall₂ (Message.Carries notifier.topic) ns (ns.map notifier.message) :=
  List.forall₂_map_right_iff.2 (List.forall₂_same.2 fun n _ => carries_message notifier n)

/-- Different notifications have different payloads. -/
theorem payload_eq_iff {n n' : SwitchNotification} :
    n.payload = n'.payload ↔ n.tag = n'.tag ∧ n.countryCode = n'.countryCode := by
  constructor
  · intro h
    have hread := n.readsBack.text
    rw [show n.toValue.text = n'.toValue.text from h, n'.readsBack.text] at hread
    cases hread
    exact ⟨rfl, rfl⟩
  · rintro ⟨htag, hcountry⟩
    unfold SwitchNotification.payload SwitchNotification.toValue
    rw [htag, hcountry]

end BoxOffice
