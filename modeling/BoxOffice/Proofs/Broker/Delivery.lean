import BoxOffice.Broker.Hub
import BoxOffice.Service.Notifier
import Mathlib.Data.List.Nodup

/-!
# Delivery to subscriptions

Subscriptions are made, read and dropped, and messages are published, in any order.

1. What waits for a subscription changes by what is done to it, and by messages (`waiting?_subscribe`
   and its likes).
2. Every live subscription is among the recipients, and none is there twice (`Hub.Linked`). Each step
   keeps that up, also one that finds subscriptions dropped, so that a message reaches all that are
   live, once (`Hub.Linked.waiting?_publish`).
3. In each step a subscription receives the first of what waits for it, or a message comes behind it
   (`Hub.Linked.conserved_perform`). In a whole session, by induction over its steps, what was
   received and what waits are what was published (`Hub.Linked.conserved_session`).
4. Steps that drop or read other subscriptions can be left out without any difference for a
   subscription (`Hub.Alike.session_filter`).
-/

namespace BoxOffice

/-! ## What waits -/

namespace Hub

variable {h : Hub} {i sub : Nat} {q : Option (List Message)} {queue : List Message}

theorem lt_of_waiting? (hq : h.waiting? sub = some queue) : sub < h.subscriptions.length := by
  unfold waiting? at hq
  rw [Option.join_eq_some_iff] at hq
  exact (List.getElem?_eq_some_iff.1 hq).1

theorem waiting?_eq_none_of_le (hle : h.subscriptions.length ≤ sub) : h.waiting? sub = none := by
  unfold waiting?
  rw [List.getElem?_eq_none hle]
  rfl

/-- What waits where one subscription was changed. -/
theorem waiting?_set (published : List Message) (recipients : List Nat) (q : Option (List Message))
    (hi : i < h.subscriptions.length) (sub : Nat) :
    waiting? ⟨published, h.subscriptions.set i q, recipients⟩ sub =
      if sub = i then q else h.waiting? sub := by
  unfold waiting?
  rw [List.getElem?_set]
  by_cases hs : sub = i
  · subst hs
    simp [hi]
  · simp [hs, Ne.symm hs]

/-- What waits where nothing was changed. -/
theorem waiting?_eq_ite (hq : h.waiting? i = q) (sub : Nat) :
    h.waiting? sub = if sub = i then q else h.waiting? sub := by
  by_cases hs : sub = i
  · rw [if_pos hs, hs, hq]
  · rw [if_neg hs]

theorem waiting?_subscribe (h : Hub) (sub : Nat) :
    h.subscribe.1.waiting? sub =
      if sub = h.subscriptions.length then some [] else h.waiting? sub := by
  unfold subscribe waiting?
  rw [List.getElem?_append]
  by_cases hlt : sub < h.subscriptions.length
  · simp [hlt, Nat.ne_of_lt hlt]
  · rw [if_neg hlt, List.getElem?_eq_none (Nat.le_of_not_lt hlt)]
    by_cases hs : sub = h.subscriptions.length
    · simp [hs]
    · have hone : [some ([] : List Message)].length ≤ sub - h.subscriptions.length := by
        rw [List.length_singleton]
        omega
      rw [if_neg hs, List.getElem?_eq_none hone]

theorem waiting?_unsubscribe (h : Hub) (i sub : Nat) :
    (h.unsubscribe i).1.waiting? sub = if sub = i then none else h.waiting? sub := by
  unfold unsubscribe
  split
  · next hq => exact waiting?_set _ _ none (lt_of_waiting? hq) sub
  · next hq => exact waiting?_eq_ite hq sub

theorem waiting?_receive (h : Hub) (i sub : Nat) :
    (h.receive i).1.waiting? sub =
      if sub = i then (h.waiting? i).map List.tail else h.waiting? sub := by
  unfold receive
  split
  · next m rest hq =>
    rw [hq]
    exact waiting?_set _ _ (some rest) (lt_of_waiting? hq) sub
  · next hq =>
    rw [hq]
    exact waiting?_eq_ite hq sub
  · next hq =>
    rw [hq]
    exact waiting?_eq_ite hq sub

theorem waiting?_deliver (h : Hub) (m : Message) (i sub : Nat) :
    (h.deliver m i).1.waiting? sub =
      if sub = i then (h.waiting? i).map (· ++ [m]) else h.waiting? sub := by
  unfold deliver
  split
  · next queue hq =>
    rw [hq]
    exact waiting?_set _ _ (some (queue ++ [m])) (lt_of_waiting? hq) sub
  · next hq =>
    rw [hq]
    exact waiting?_eq_ite hq sub

/-- A message reaches each of the subscriptions that it is delivered to once. -/
theorem waiting?_deliverAll (m : Message) {subs : List Nat} (hnodup : subs.Nodup) (h : Hub)
    (sub : Nat) :
    (h.deliverAll m subs).1.waiting? sub =
      if sub ∈ subs then (h.waiting? sub).map (· ++ [m]) else h.waiting? sub := by
  induction subs generalizing h with
  | nil => rfl
  | cons i rest ih =>
    obtain ⟨hi, hrest⟩ := List.nodup_cons.1 hnodup
    show ((h.deliver m i).1.deliverAll m rest).1.waiting? sub = _
    rw [ih hrest, waiting?_deliver]
    by_cases hs : sub = i
    · subst hs
      simp [hi]
    · simp [hs]

/-- The subscriptions that are live are kept. -/
theorem deliverAll_snd (m : Message) {subs : List Nat} (hnodup : subs.Nodup) (h : Hub) :
    (h.deliverAll m subs).2 = subs.filter fun sub => (h.waiting? sub).isSome := by
  induction subs generalizing h with
  | nil => rfl
  | cons i rest ih =>
    obtain ⟨hi, hrest⟩ := List.nodup_cons.1 hnodup
    have hlive : (h.deliver m i).2 = (h.waiting? i).isSome := by
      unfold deliver
      cases h.waiting? i <;> rfl
    have hsame : (rest.filter fun sub => ((h.deliver m i).1.waiting? sub).isSome) =
        rest.filter fun sub => (h.waiting? sub).isSome := by
      refine List.filter_congr fun sub hsub => ?_
      rw [waiting?_deliver, if_neg (ne_of_mem_of_not_mem hsub hi)]
    show (if (h.deliver m i).2 then i :: ((h.deliver m i).1.deliverAll m rest).2
      else ((h.deliver m i).1.deliverAll m rest).2) = _
    rw [ih hrest, hsame, hlive, List.filter_cons]

/-! ## What stays -/

@[simp] theorem unsubscribe_published (h : Hub) (i : Nat) :
    (h.unsubscribe i).1.published = h.published := by
  unfold unsubscribe
  split <;> rfl

@[simp] theorem receive_published (h : Hub) (i : Nat) : (h.receive i).1.published = h.published := by
  unfold receive
  split <;> rfl

@[simp] theorem deliver_published (h : Hub) (m : Message) (i : Nat) :
    (h.deliver m i).1.published = h.published := by
  unfold deliver
  split <;> rfl

@[simp] theorem deliverAll_published (h : Hub) (m : Message) (subs : List Nat) :
    (h.deliverAll m subs).1.published = h.published := by
  induction subs generalizing h with
  | nil => rfl
  | cons i rest ih => exact (ih (h.deliver m i).1).trans (deliver_published h m i)

@[simp] theorem publish_published (h : Hub) (m : Message) :
    (h.publish m).published = h.published ++ [m] :=
  deliverAll_published _ m h.recipients

@[simp] theorem unsubscribe_recipients (h : Hub) (i : Nat) :
    (h.unsubscribe i).1.recipients = h.recipients := by
  unfold unsubscribe
  split <;> rfl

@[simp] theorem receive_recipients (h : Hub) (i : Nat) :
    (h.receive i).1.recipients = h.recipients := by
  unfold receive
  split <;> rfl

@[simp] theorem subscribe_length (h : Hub) :
    h.subscribe.1.subscriptions.length = h.subscriptions.length + 1 := by
  simp [subscribe]

@[simp] theorem unsubscribe_length (h : Hub) (i : Nat) :
    (h.unsubscribe i).1.subscriptions.length = h.subscriptions.length := by
  unfold unsubscribe
  split
  · exact List.length_set
  · rfl

@[simp] theorem receive_length (h : Hub) (i : Nat) :
    (h.receive i).1.subscriptions.length = h.subscriptions.length := by
  unfold receive
  split
  · exact List.length_set
  · rfl
  · rfl

@[simp] theorem deliver_length (h : Hub) (m : Message) (i : Nat) :
    (h.deliver m i).1.subscriptions.length = h.subscriptions.length := by
  unfold deliver
  split
  · exact List.length_set
  · rfl

@[simp] theorem deliverAll_length (h : Hub) (m : Message) (subs : List Nat) :
    (h.deliverAll m subs).1.subscriptions.length = h.subscriptions.length := by
  induction subs generalizing h with
  | nil => rfl
  | cons i rest ih => exact (ih (h.deliver m i).1).trans (deliver_length h m i)

@[simp] theorem publish_length (h : Hub) (m : Message) :
    (h.publish m).subscriptions.length = h.subscriptions.length :=
  deliverAll_length _ m h.recipients

/-! ## Recipients -/

/-- The recipients are subscriptions, each named once, and all that are live are among them. -/
structure Linked (h : Hub) : Prop where
  nodup : h.recipients.Nodup
  lt_length : ∀ sub ∈ h.recipients, sub < h.subscriptions.length
  mem_of_live : ∀ sub, h.waiting? sub ≠ none → sub ∈ h.recipients

theorem linked_empty : empty.Linked where
  nodup := List.nodup_nil
  lt_length := nofun
  mem_of_live sub hlive := absurd (waiting?_eq_none_of_le (Nat.zero_le sub)) hlive

namespace Linked

variable (hl : h.Linked)

include hl

/-- A published message comes behind what waits, for every live subscription. -/
theorem waiting?_publish (m : Message) (sub : Nat) :
    (h.publish m).waiting? sub = (h.waiting? sub).map (· ++ [m]) := by
  have hall := waiting?_deliverAll m hl.nodup { h with published := h.published ++ [m] } sub
  show ({ h with published := h.published ++ [m] }.deliverAll m h.recipients).1.waiting? sub = _
  rw [hall]
  split
  · rfl
  · next hnot =>
    have hdead : h.waiting? sub = none := by
      by_contra hlive
      exact hnot (hl.mem_of_live sub hlive)
    show h.waiting? sub = _
    rw [hdead]
    rfl

theorem subscribe : h.subscribe.1.Linked where
  nodup := by
    show (h.recipients ++ [h.subscriptions.length]).Nodup
    refine List.nodup_append.2 ⟨hl.nodup, List.nodup_singleton _, fun sub hsub i hi => ?_⟩
    rw [List.mem_singleton.1 hi]
    exact Nat.ne_of_lt (hl.lt_length sub hsub)
  lt_length sub hsub := by
    have hsub : sub ∈ h.recipients ++ [h.subscriptions.length] := hsub
    rw [subscribe_length]
    rcases List.mem_append.1 hsub with hold | hnew
    · exact Nat.lt_succ_of_lt (hl.lt_length sub hold)
    · rw [List.mem_singleton.1 hnew]
      exact Nat.lt_succ_self _
  mem_of_live sub hlive := by
    show sub ∈ h.recipients ++ [h.subscriptions.length]
    rw [waiting?_subscribe] at hlive
    split at hlive
    · next hs => simp [hs]
    · exact List.mem_append_left _ (hl.mem_of_live sub hlive)

theorem unsubscribe (i : Nat) : (h.unsubscribe i).1.Linked where
  nodup := by simpa using hl.nodup
  lt_length := by simpa using hl.lt_length
  mem_of_live sub hlive := by
    rw [waiting?_unsubscribe] at hlive
    split at hlive
    · exact absurd rfl hlive
    · simpa using hl.mem_of_live sub hlive

theorem receive (i : Nat) : (h.receive i).1.Linked where
  nodup := by simpa using hl.nodup
  lt_length := by simpa using hl.lt_length
  mem_of_live sub hlive := by
    rw [waiting?_receive] at hlive
    rw [receive_recipients]
    split at hlive
    · next hs =>
      subst hs
      exact hl.mem_of_live sub fun hnone => hlive (by rw [hnone]; rfl)
    · exact hl.mem_of_live sub hlive

/-- Of the recipients a publishing leaves out those that were dropped, and no other. -/
theorem recipients_publish (m : Message) :
    (h.publish m).recipients = h.recipients.filter fun sub => (h.waiting? sub).isSome :=
  deliverAll_snd m hl.nodup { h with published := h.published ++ [m] }

theorem publish (m : Message) : (h.publish m).Linked where
  nodup := by
    rw [hl.recipients_publish]
    exact hl.nodup.filter _
  lt_length sub hsub := by
    rw [hl.recipients_publish] at hsub
    rw [publish_length]
    exact hl.lt_length sub (List.mem_filter.1 hsub).1
  mem_of_live sub hlive := by
    rw [hl.waiting?_publish, ne_eq, Option.map_eq_none_iff] at hlive
    rw [hl.recipients_publish]
    exact List.mem_filter.2 ⟨hl.mem_of_live sub hlive, Option.isSome_iff_ne_none.2 hlive⟩

end Linked

end Hub

/-! ## Steps -/

/-- What is done with a hub: a subscription is made, dropped or read, or a message is published, by
itself or to carry a notification. Notifications are sent in the background; the step of one is where
its message is published. -/
inductive HubStep where
  | subscribe
  | drop (sub : Nat)
  | publish (m : Message)
  | notify (n : Notifier) (running : Bool) (s : SwitchNotification)
  | receive (sub : Nat)
  deriving DecidableEq

/-- What comes of a step. -/
inductive HubAnswer where
  | subscribed (sub : Nat)
  | dropped (live : Bool)
  | published (outcome : Except PublishError Unit)
  | notified (dispatched : Bool)
  | received (sub : Nat) (r : Receive)

/-- The message of a reading. -/
def Receive.message? : Receive → Option Message
  | .message m => some m
  | _ => none

/-- What a reading of the subscription came to. -/
def HubAnswer.reply? (sub : Nat) : HubAnswer → Option Receive
  | .received i r => if i = sub then some r else none
  | _ => none

namespace HubStep

/-- Takes a step. -/
def perform (h : Hub) : HubStep → Hub × HubAnswer
  | .subscribe => (h.subscribe.1, .subscribed h.subscribe.2)
  | .drop sub => ((h.unsubscribe sub).1, .dropped (h.unsubscribe sub).2)
  | .publish m =>
    ((Hub.publisher.publish h m).1, .published (Hub.publisher.publish h m).2.outcome)
  | .notify n running s =>
    ((n.dispatch Hub.publisher running h s).1, .notified (n.dispatch Hub.publisher running h s).2.1)
  | .receive sub => ((h.receive sub).1, .received sub (h.receive sub).2)

/-- The message that a step publishes. -/
def message? : HubStep → Option Message
  | .publish m => some m
  | .notify n true s => some (n.message s)
  | _ => none

/-- The step does not only drop or read another subscription. -/
def concerns (sub : Nat) : HubStep → Bool
  | .drop i | .receive i => i = sub
  | _ => true

end HubStep

/-- A hub after steps, and what came of them. -/
def Hub.session (h : Hub) : List HubStep → Hub × List HubAnswer
  | [] => (h, [])
  | step :: rest =>
    let (h, answer) := step.perform h
    let (h, answers) := h.session rest
    (h, answer :: answers)

/-- The messages that are published in some steps, in their order. -/
def messagesOf (steps : List HubStep) : List Message := steps.filterMap HubStep.message?

/-- What the readings of a subscription came to, in their order. -/
def repliesTo (sub : Nat) (answers : List HubAnswer) : List Receive :=
  answers.filterMap (HubAnswer.reply? sub)

/-- The messages that a subscription received, in their order. -/
def receivedBy (sub : Nat) (answers : List HubAnswer) : List Message :=
  (repliesTo sub answers).filterMap Receive.message?

namespace Hub

variable {h : Hub} {sub : Nat} {queue : List Message} {step : HubStep} {steps : List HubStep}

theorem receive_snd (h : Hub) (sub : Nat) :
    (h.receive sub).2 = match h.waiting? sub with
      | some (m :: _) => .message m
      | some [] => .pending
      | none => .noSubscription := by
  unfold receive
  split <;> simp [*]

theorem published_perform (h : Hub) (step : HubStep) :
    (step.perform h).1.published = h.published ++ step.message?.toList := by
  cases step with
  | subscribe => exact (List.append_nil _).symm
  | drop i => simp [HubStep.perform, HubStep.message?]
  | publish m => exact publish_published h m
  | notify n running s =>
    cases running with
    | false => exact (List.append_nil _).symm
    | true => exact publish_published h (n.message s)
  | receive i => simp [HubStep.perform, HubStep.message?]

theorem length_le_perform (h : Hub) (step : HubStep) :
    h.subscriptions.length ≤ (step.perform h).1.subscriptions.length := by
  cases step with
  | subscribe => simp [HubStep.perform]
  | drop i => simp [HubStep.perform]
  | publish m => exact Nat.le_of_eq (publish_length h m).symm
  | notify n running s =>
    cases running with
    | false => exact Nat.le_refl _
    | true => exact Nat.le_of_eq (publish_length h (n.message s)).symm
  | receive i => simp [HubStep.perform]

/-- A step keeps all live subscriptions among the recipients. -/
theorem Linked.perform (hl : h.Linked) (step : HubStep) : (step.perform h).1.Linked := by
  cases step with
  | subscribe => exact hl.subscribe
  | drop i => exact hl.unsubscribe i
  | publish m => exact hl.publish m
  | notify n running s =>
    cases running with
    | false => exact hl
    | true => exact hl.publish (n.message s)
  | receive i => exact hl.receive i

/-! ## One subscription -/

theorem repliesTo_cons (sub : Nat) (answer : HubAnswer) (answers : List HubAnswer) :
    repliesTo sub (answer :: answers) = (answer.reply? sub).toList ++ repliesTo sub answers := by
  unfold repliesTo
  rw [List.filterMap_cons]
  cases answer.reply? sub <;> rfl

theorem receivedBy_received (sub : Nat) (r : Receive) :
    receivedBy sub [.received sub r] = r.message?.toList := by
  unfold receivedBy
  rw [repliesTo_cons, show (HubAnswer.received sub r).reply? sub = some r from if_pos rfl]
  cases r <;> rfl

theorem receivedBy_received_of_ne {i : Nat} (hi : i ≠ sub) (r : Receive) :
    receivedBy sub [.received i r] = [] := by
  unfold receivedBy
  rw [repliesTo_cons, show (HubAnswer.received i r).reply? sub = none from if_neg hi]
  rfl

theorem receivedBy_append (sub : Nat) (answers more : List HubAnswer) :
    receivedBy sub (answers ++ more) = receivedBy sub answers ++ receivedBy sub more := by
  unfold receivedBy repliesTo
  rw [List.filterMap_append, List.filterMap_append]

theorem receivedBy_cons (sub : Nat) (answer : HubAnswer) (answers : List HubAnswer) :
    receivedBy sub (answer :: answers) = receivedBy sub [answer] ++ receivedBy sub answers :=
  receivedBy_append sub [answer] answers

theorem messagesOf_cons (step : HubStep) (steps : List HubStep) :
    messagesOf (step :: steps) = messagesOf [step] ++ messagesOf steps := by
  unfold messagesOf
  rw [← List.filterMap_append, List.singleton_append]

/-- A step keeps what a live subscription received, what waits for it and what comes behind that
together. -/
theorem Linked.conserved_perform (hl : h.Linked) (hq : h.waiting? sub = some queue)
    (hstep : step ≠ .drop sub) :
    ∃ queue', (step.perform h).1.waiting? sub = some queue' ∧
      receivedBy sub [(step.perform h).2] ++ queue' = queue ++ messagesOf [step] := by
  have hpublish : ∀ m, (h.publish m).waiting? sub = some (queue ++ [m]) := by
    intro m
    rw [hl.waiting?_publish, hq]
    rfl
  cases step with
  | subscribe =>
    refine ⟨queue, ?_, (List.append_nil queue).symm⟩
    show h.subscribe.1.waiting? sub = _
    rw [waiting?_subscribe, if_neg (Nat.ne_of_lt (lt_of_waiting? hq)), hq]
  | drop i =>
    have hi : sub ≠ i := fun hs => hstep (by rw [hs])
    refine ⟨queue, ?_, (List.append_nil queue).symm⟩
    show (h.unsubscribe i).1.waiting? sub = _
    rw [waiting?_unsubscribe, if_neg hi, hq]
  | publish m => exact ⟨queue ++ [m], hpublish m, rfl⟩
  | notify n running s =>
    cases running with
    | false => exact ⟨queue, hq, (List.append_nil queue).symm⟩
    | true => exact ⟨queue ++ [n.message s], hpublish (n.message s), rfl⟩
  | receive i =>
    show ∃ queue', (h.receive i).1.waiting? sub = some queue' ∧
      receivedBy sub [.received i (h.receive i).2] ++ queue' = queue ++ messagesOf [.receive i]
    rw [waiting?_receive, receive_snd]
    by_cases hi : i = sub
    · subst hi
      rw [if_pos rfl, hq]
      cases queue with
      | nil => exact ⟨[], rfl, by rw [receivedBy_received]; rfl⟩
      | cons m rest => exact ⟨rest, rfl, by rw [receivedBy_received]; simp [Receive.message?, messagesOf,
          HubStep.message?]⟩
    · rw [if_neg (Ne.symm hi)]
      exact ⟨queue, hq, by rw [receivedBy_received_of_ne hi]; exact (List.append_nil queue).symm⟩

/-- Without a live subscription there is nothing to receive. -/
theorem receivedBy_perform_of_none (hq : h.waiting? sub = none) (step : HubStep) :
    receivedBy sub [(step.perform h).2] = [] := by
  cases step with
  | receive i =>
    show receivedBy sub [.received i (h.receive i).2] = []
    by_cases hi : i = sub
    · rw [hi, receivedBy_received, receive_snd, hq]
      rfl
    · exact receivedBy_received_of_ne hi _
  | _ => rfl

/-- A subscription that was dropped stays so. -/
theorem Linked.waiting?_perform_of_none (hl : h.Linked) (hlt : sub < h.subscriptions.length)
    (hq : h.waiting? sub = none) (step : HubStep) : (step.perform h).1.waiting? sub = none := by
  have hpublish : ∀ m, (h.publish m).waiting? sub = none := by
    intro m
    rw [hl.waiting?_publish, hq]
    rfl
  cases step with
  | subscribe =>
    show h.subscribe.1.waiting? sub = none
    rw [waiting?_subscribe, if_neg (Nat.ne_of_lt hlt), hq]
  | drop i =>
    show (h.unsubscribe i).1.waiting? sub = none
    rw [waiting?_unsubscribe, hq, ite_self]
  | publish m => exact hpublish m
  | notify n running s =>
    cases running with
    | false => exact hq
    | true => exact hpublish (n.message s)
  | receive i =>
    show (h.receive i).1.waiting? sub = none
    rw [waiting?_receive]
    split
    · next hs => rw [← hs, hq]; rfl
    · exact hq

/-! ## Sessions -/

theorem session_cons (h : Hub) (step : HubStep) (steps : List HubStep) :
    h.session (step :: steps) = (((step.perform h).1.session steps).1,
      (step.perform h).2 :: ((step.perform h).1.session steps).2) := rfl

theorem session_append (h : Hub) (steps more : List HubStep) :
    h.session (steps ++ more) = (((h.session steps).1.session more).1,
      (h.session steps).2 ++ ((h.session steps).1.session more).2) := by
  induction steps generalizing h with
  | nil => rfl
  | cons step rest ih =>
    rw [List.cons_append, session_cons, ih]
    rfl

theorem session_length (h : Hub) (steps : List HubStep) :
    (h.session steps).2.length = steps.length := by
  induction steps generalizing h with
  | nil => rfl
  | cons step rest ih => exact congrArg Nat.succ (ih (step.perform h).1)

theorem published_session (h : Hub) (steps : List HubStep) :
    (h.session steps).1.published = h.published ++ messagesOf steps := by
  induction steps generalizing h with
  | nil => exact (List.append_nil _).symm
  | cons step rest ih =>
    have hstep : step.message?.toList = messagesOf [step] := by
      cases hm : step.message? <;> simp [messagesOf, hm]
    rw [session_cons, ih, published_perform, hstep, messagesOf_cons step rest, List.append_assoc]

/-- No publishing is refused. -/
theorem published_ok_of_mem_session {outcome : Except PublishError Unit}
    (hmem : .published outcome ∈ (h.session steps).2) : outcome = .ok () := by
  induction steps generalizing h with
  | nil => cases hmem
  | cons step rest ih =>
    rcases List.mem_cons.1 hmem with hnow | hlater
    · cases step with
      | publish m =>
        cases hnow
        rfl
      | _ => cases hnow
    · exact ih hlater

theorem length_le_session (h : Hub) (steps : List HubStep) :
    h.subscriptions.length ≤ (h.session steps).1.subscriptions.length := by
  induction steps generalizing h with
  | nil => exact Nat.le_refl _
  | cons step rest ih => exact Nat.le_trans (length_le_perform h step) (ih (step.perform h).1)

theorem Linked.session (hl : h.Linked) (steps : List HubStep) : (h.session steps).1.Linked := by
  induction steps generalizing h with
  | nil => exact hl
  | cons step rest ih => exact ih (hl.perform step)

/-- Whoever has no subscription yet receives nothing. -/
theorem receivedBy_session_of_le (hle : (h.session steps).1.subscriptions.length ≤ sub) :
    receivedBy sub (h.session steps).2 = [] := by
  induction steps generalizing h with
  | nil => rfl
  | cons step rest ih =>
    have hnone : h.waiting? sub = none :=
      waiting?_eq_none_of_le (Nat.le_trans (length_le_session h (step :: rest)) hle)
    have hrest : receivedBy sub ((step.perform h).1.session rest).2 = [] := ih hle
    rw [session_cons, receivedBy_cons, receivedBy_perform_of_none hnone step, hrest]
    rfl

/-- A subscription that was dropped receives nothing any more. -/
theorem Linked.dead_session (hl : h.Linked) (hlt : sub < h.subscriptions.length)
    (hq : h.waiting? sub = none) (steps : List HubStep) :
    (h.session steps).1.waiting? sub = none ∧ receivedBy sub (h.session steps).2 = [] := by
  induction steps generalizing h with
  | nil => exact ⟨hq, rfl⟩
  | cons step rest ih =>
    obtain ⟨hwaiting, hreceived⟩ := ih (hl.perform step)
      (Nat.lt_of_lt_of_le hlt (length_le_perform h step)) (hl.waiting?_perform_of_none hlt hq step)
    refine ⟨hwaiting, ?_⟩
    rw [session_cons, receivedBy_cons, receivedBy_perform_of_none hq step, hreceived]
    rfl

/-- A subscription that is not dropped stays live; what it received and what waits for it are what
waited before and what was published. -/
theorem Linked.conserved_session (hl : h.Linked) (hq : h.waiting? sub = some queue)
    (hkeep : .drop sub ∉ steps) :
    ∃ queue', (h.session steps).1.waiting? sub = some queue' ∧
      receivedBy sub (h.session steps).2 ++ queue' = queue ++ messagesOf steps := by
  induction steps generalizing h queue with
  | nil => exact ⟨queue, hq, (List.append_nil queue).symm⟩
  | cons step rest ih =>
    obtain ⟨hstep, hrest⟩ := not_or.1 (mt List.mem_cons.2 hkeep)
    obtain ⟨queue₁, hq₁, hone⟩ := hl.conserved_perform hq (Ne.symm hstep)
    obtain ⟨queue₂, hq₂, hmore⟩ := ih (hl.perform step) hq₁ hrest
    refine ⟨queue₂, hq₂, ?_⟩
    rw [session_cons, receivedBy_cons, List.append_assoc, hmore, ← List.append_assoc, hone,
      List.append_assoc, ← messagesOf_cons]

theorem Linked.dropped_session (hl : h.Linked) (hlt : sub < h.subscriptions.length)
    (hdrop : .drop sub ∈ steps) : (h.session steps).1.waiting? sub = none := by
  induction steps generalizing h with
  | nil => cases hdrop
  | cons step rest ih =>
    have hlt' := Nat.lt_of_lt_of_le hlt (length_le_perform h step)
    rcases List.mem_cons.1 hdrop with rfl | hrest
    · have hnone : (h.unsubscribe sub).1.waiting? sub = none := by
        rw [waiting?_unsubscribe, if_pos rfl]
      exact ((hl.perform (.drop sub)).dead_session hlt' hnone rest).1
    · exact ih (hl.perform step) hlt' hrest

/-- Dropped or not, a subscription receives the first of the messages that wait or are published. -/
theorem Linked.received_prefix (hl : h.Linked) (hq : h.waiting? sub = some queue)
    (steps : List HubStep) : receivedBy sub (h.session steps).2 <+: queue ++ messagesOf steps := by
  induction steps generalizing h queue with
  | nil => exact List.nil_prefix
  | cons step rest ih =>
    rw [session_cons, receivedBy_cons]
    by_cases hstep : step = .drop sub
    · subst hstep
      have hnone : (h.unsubscribe sub).1.waiting? sub = none := by
        rw [waiting?_unsubscribe, if_pos rfl]
      have hlt := Nat.lt_of_lt_of_le (lt_of_waiting? hq) (length_le_perform h (.drop sub))
      rw [((hl.perform (.drop sub)).dead_session hlt hnone rest).2]
      exact List.nil_prefix
    · obtain ⟨queue₁, hq₁, hone⟩ := hl.conserved_perform hq hstep
      rw [messagesOf_cons, ← List.append_assoc, ← hone, List.append_assoc]
      exact (List.prefix_append_right_inj _).2 (ih (hl.perform step) hq₁)

/-! ## Other subscriptions -/

/-- Two hubs are alike for a subscription. -/
structure Alike (sub : Nat) (h h' : Hub) : Prop where
  published : h.published = h'.published
  length : h.subscriptions.length = h'.subscriptions.length
  waiting : h.waiting? sub = h'.waiting? sub

section Alike

variable {h' h'' : Hub}

theorem Alike.trans (ha : Alike sub h h') (hb : Alike sub h' h'') : Alike sub h h'' :=
  ⟨ha.published.trans hb.published, ha.length.trans hb.length, ha.waiting.trans hb.waiting⟩

theorem Alike.symm (ha : Alike sub h h') : Alike sub h' h :=
  ⟨ha.published.symm, ha.length.symm, ha.waiting.symm⟩

/-- What is done to another subscription makes no difference. -/
theorem alike_perform_of_other (hstep : step.concerns sub = false) :
    Alike sub (step.perform h).1 h ∧ (step.perform h).2.reply? sub = none := by
  cases step with
  | drop i =>
    have hi : i ≠ sub := of_decide_eq_false hstep
    refine ⟨⟨unsubscribe_published h i, unsubscribe_length h i, ?_⟩, rfl⟩
    show (h.unsubscribe i).1.waiting? sub = _
    rw [waiting?_unsubscribe, if_neg (Ne.symm hi)]
  | receive i =>
    have hi : i ≠ sub := of_decide_eq_false hstep
    refine ⟨⟨receive_published h i, receive_length h i, ?_⟩, if_neg hi⟩
    show (h.receive i).1.waiting? sub = _
    rw [waiting?_receive, if_neg (Ne.symm hi)]
  | subscribe => cases hstep
  | publish m => cases hstep
  | notify n running s => cases hstep

theorem Alike.publish (ha : Alike sub h h') (hl : h.Linked) (hl' : h'.Linked) (m : Message) :
    Alike sub (h.publish m) (h'.publish m) where
  published := by simp [ha.published]
  length := by simp [ha.length]
  waiting := by rw [hl.waiting?_publish, hl'.waiting?_publish, ha.waiting]

/-- A step does the same to hubs that are alike. -/
theorem Alike.perform (ha : Alike sub h h') (hl : h.Linked) (hl' : h'.Linked) (step : HubStep) :
    Alike sub (step.perform h).1 (step.perform h').1 ∧
      (step.perform h).2.reply? sub = (step.perform h').2.reply? sub := by
  cases step with
  | subscribe =>
    refine ⟨⟨ha.published, by simp [HubStep.perform, ha.length], ?_⟩, rfl⟩
    show h.subscribe.1.waiting? sub = h'.subscribe.1.waiting? sub
    rw [waiting?_subscribe, waiting?_subscribe, ha.length, ha.waiting]
  | drop i =>
    refine ⟨⟨by simpa [HubStep.perform] using ha.published,
      by simpa [HubStep.perform] using ha.length, ?_⟩, rfl⟩
    show (h.unsubscribe i).1.waiting? sub = (h'.unsubscribe i).1.waiting? sub
    rw [waiting?_unsubscribe, waiting?_unsubscribe, ha.waiting]
  | publish m => exact ⟨ha.publish hl hl' m, rfl⟩
  | notify n running s =>
    cases running with
    | false => exact ⟨ha, rfl⟩
    | true => exact ⟨ha.publish hl hl' (n.message s), rfl⟩
  | receive i =>
    by_cases hi : i = sub
    · subst hi
      refine ⟨⟨by simpa [HubStep.perform] using ha.published,
        by simpa [HubStep.perform] using ha.length, ?_⟩, ?_⟩
      · show (h.receive i).1.waiting? i = (h'.receive i).1.waiting? i
        rw [waiting?_receive, waiting?_receive, ha.waiting]
      · show (HubAnswer.received i (h.receive i).2).reply? i =
          (HubAnswer.received i (h'.receive i).2).reply? i
        rw [receive_snd, receive_snd, ha.waiting]
    · have hother : (HubStep.receive i).concerns sub = false := decide_eq_false hi
      obtain ⟨hsame, hnone⟩ := alike_perform_of_other (h := h) hother
      obtain ⟨hsame', hnone'⟩ := alike_perform_of_other (h := h') hother
      exact ⟨(hsame.trans ha).trans hsame'.symm, hnone.trans hnone'.symm⟩

/-- Steps that only drop or read other subscriptions can be left out. -/
theorem Alike.session_filter (ha : Alike sub h h') (hl : h.Linked) (hl' : h'.Linked)
    (steps : List HubStep) :
    Alike sub (h.session steps).1 (h'.session (steps.filter (HubStep.concerns sub))).1 ∧
      repliesTo sub (h.session steps).2 =
        repliesTo sub (h'.session (steps.filter (HubStep.concerns sub))).2 := by
  induction steps generalizing h h' with
  | nil => exact ⟨ha, rfl⟩
  | cons step rest ih =>
    cases hstep : step.concerns sub with
    | true =>
      obtain ⟨hsame, hreply⟩ := ha.perform hl hl' step
      obtain ⟨hrest, hreplies⟩ := ih hsame (hl.perform step) (hl'.perform step)
      rw [List.filter_cons_of_pos hstep]
      refine ⟨hrest, ?_⟩
      rw [session_cons, session_cons, repliesTo_cons, repliesTo_cons, hreply, hreplies]
    | false =>
      obtain ⟨hsame, hreply⟩ := alike_perform_of_other (h := h) hstep
      obtain ⟨hrest, hreplies⟩ := ih (hsame.trans ha) (hl.perform step) hl'
      rw [List.filter_cons_of_neg (by rw [hstep]; exact Bool.false_ne_true)]
      refine ⟨hrest, ?_⟩
      rw [session_cons, repliesTo_cons, hreply, hreplies]
      rfl

end Alike

/-! ## Service -/

/-- In a session, the subscription is served in the steps after its making: it is live until it is
dropped, and its readings give the messages that are published in them, one after the other. -/
structure Serves (s : Hub × List HubAnswer) (sub : Nat) (steps : List HubStep) : Prop where
  live_iff : s.1.waiting? sub ≠ none ↔ .drop sub ∉ steps
  conserved : ∀ queue, s.1.waiting? sub = some queue → receivedBy sub s.2 ++ queue = messagesOf steps
  received_prefix : receivedBy sub s.2 <+: messagesOf steps
  message_iff : ∀ m, (s.1.receive sub).2 = .message m ↔
    .drop sub ∉ steps ∧ ∃ rest, messagesOf steps = receivedBy sub s.2 ++ m :: rest
  pending_iff : (s.1.receive sub).2 = .pending ↔
    .drop sub ∉ steps ∧ messagesOf steps = receivedBy sub s.2

/-- A subscription that is conserved is served. -/
theorem serves_of_conserved {s : Hub × List HubAnswer} (hstart : receivedBy sub s.2 <+: messagesOf steps)
    (hlive : .drop sub ∉ steps →
      ∃ queue, s.1.waiting? sub = some queue ∧ receivedBy sub s.2 ++ queue = messagesOf steps)
    (hdead : .drop sub ∈ steps → s.1.waiting? sub = none) : Serves s sub steps := by
  by_cases hdrop : .drop sub ∈ steps
  · have hnone := hdead hdrop
    have hreply : (s.1.receive sub).2 = .noSubscription := by rw [receive_snd, hnone]
    constructor <;> simp [hnone, hreply, hdrop, hstart]
  · obtain ⟨queue, hq, hsum⟩ := hlive hdrop
    constructor
    · simp [hq, hdrop]
    · intro queue' hq'
      cases hq.symm.trans hq'
      exact hsum
    · exact hstart
    · intro m
      rw [receive_snd, hq, ← hsum]
      cases queue <;> simp [hdrop]
    · rw [receive_snd, hq, ← hsum]
      cases queue <;> simp [hdrop]

/-- A subscription that is made in a session is served from then on. -/
theorem serves_session (before after : List HubStep) :
    let s := empty.session (before ++ .subscribe :: after)
    ∃ sub, s.2[before.length]? = some (.subscribed sub) ∧ Serves s sub after := by
  intro s
  have hstart : (empty.session before).1.Linked := linked_empty.session before
  have hl := hstart.subscribe
  set start := (empty.session before).1
  set sub := start.subscriptions.length
  have hs : s = ((start.subscribe.1.session after).1, (empty.session before).2 ++
      .subscribed sub :: (start.subscribe.1.session after).2) :=
    session_append empty before (.subscribe :: after)
  have hq : start.subscribe.1.waiting? sub = some [] := by
    rw [waiting?_subscribe, if_pos rfl]
  have hnone : receivedBy sub (empty.session before).2 = [] :=
    receivedBy_session_of_le (Nat.le_refl sub)
  have hreceived : receivedBy sub s.2 = receivedBy sub (start.subscribe.1.session after).2 := by
    rw [hs, receivedBy_append, hnone, receivedBy_cons]
    rfl
  refine ⟨sub, ?_, serves_of_conserved ?_ ?_ ?_⟩
  · rw [hs, ← session_length empty before, List.getElem?_append_right (Nat.le_refl _), Nat.sub_self]
    rfl
  · rw [hreceived]
    exact hl.received_prefix hq after
  · intro hkeep
    rw [hreceived, hs]
    exact hl.conserved_session hq hkeep
  · intro hdrop
    rw [hs]
    exact hl.dropped_session (lt_of_waiting? hq) hdrop

end Hub

/-- In a session with a hub, whatever is done in it, all messages are published and kept in their
order. Each subscription is served in the steps after its making, and what is done to others makes
no difference to it or to what is kept. -/
theorem hub_serves_subscriptions (steps : List HubStep) :
    let s := Hub.empty.session steps
    s.1.published = messagesOf steps ∧
    (∀ outcome, .published outcome ∈ s.2 → outcome = .ok ()) ∧
    (∀ before after, steps = before ++ .subscribe :: after →
      ∃ sub, s.2[before.length]? = some (.subscribed sub) ∧ Hub.Serves s sub after) ∧
    ∀ sub steps', steps'.filter (HubStep.concerns sub) = steps.filter (HubStep.concerns sub) →
      let s' := Hub.empty.session steps'
      repliesTo sub s'.2 = repliesTo sub s.2 ∧ s'.1.waiting? sub = s.1.waiting? sub ∧
        s'.1.published = s.1.published := by
  intro s
  refine ⟨Hub.published_session .empty steps, ?_, ?_, ?_⟩
  · exact fun outcome => Hub.published_ok_of_mem_session
  · rintro before after rfl
    exact Hub.serves_session before after
  · intro sub steps' hsame s'
    have halike : Hub.Alike sub .empty .empty := ⟨rfl, rfl, rfl⟩
    obtain ⟨hs, hreplies⟩ := halike.session_filter Hub.linked_empty Hub.linked_empty steps
    obtain ⟨hs', hreplies'⟩ := halike.session_filter Hub.linked_empty Hub.linked_empty steps'
    rw [hsame] at hs' hreplies'
    have hboth := hs'.trans hs.symm
    exact ⟨hreplies'.trans hreplies.symm, hboth.waiting, hboth.published⟩

end BoxOffice
