import BoxOffice.Proofs.Session.Transcript
import Mathlib.Data.List.Forall2

/-!
# The broker and the answers

What a publisher does with its messages, be it that it refuses them all, makes no difference to a
session: not to the answers, not to what the store is asked, and not to the messages that are handed to
the publisher. Another topic changes the topic of the messages.

1. A step is an echo of the same step with another publisher (`echoes_step`), so a session is one of
   the same session (`echo_run`).
2. Under one notifier an echo is the entry itself (`same_run`), and under another topic it is the entry
   with its messages renamed (`renamed_run`).
3. The publisher has taken the messages of the entries at the end, and no others (`publisher_run`).
-/

namespace BoxOffice.Session

variable {σ π π' : Type}

/-! ## Topics -/

/-- The application that notifies for another topic. -/
def onTopic (topic : String) (app : Http.App) : Http.App :=
  { app with service := { app.service with notifier := ⟨topic⟩ } }

/-- The entry with its messages for another topic. -/
def Entry.onTopic (topic : String) (e : Entry) : Entry :=
  { e with published := e.published.map fun m => { m with topic := topic } }

section Echo

variable {notifier notifier' : Notifier} {e e' : Entry}

theorem Echo.eq_onTopic {topic : String} (h : Echo notifier ⟨topic⟩ e e') : e' = e.onTopic topic := by
  obtain ⟨answer, calls, published⟩ := e
  obtain ⟨_, _, _⟩ := e'
  obtain ⟨rfl, rfl, notifications, rfl, rfl⟩ := h
  simp only [Entry.onTopic, List.map_map]
  rfl

/-- Under one notifier, an echo is the entry itself. -/
theorem Echo.eq (h : Echo notifier notifier e e') : e' = e := by
  obtain ⟨answer, calls, published⟩ := e
  obtain ⟨_, _, _⟩ := e'
  obtain ⟨rfl, rfl, notifications, rfl, rfl⟩ := h
  rfl

end Echo

/-! ## Sessions -/

section Run

variable (policy : AvailabilityPolicy) (notifier notifier' : Notifier) (timeout : Nat)
  (stock : Stock σ) (publisher : Publisher π) (publisher' : Publisher π')

theorem echoes_step (u u' : Uuid) (state : σ) (begin : π) (begin' : π') (s : Step) :
    Echoes notifier notifier'
      (step ⟨⟨policy, notifier⟩, timeout⟩ stock publisher u (state, begin) s)
      (step ⟨⟨policy, notifier'⟩, timeout⟩ stock publisher' u' (state, begin') s) := by
  cases s with
  | insertDocument d => exact ⟨rfl, rfl, rfl, [], rfl, rfl⟩
  | insertRecord r => exact ⟨rfl, rfl, rfl, [], rfl, rfl⟩
  | ask q =>
    rw [step, step]
    exact echoes_ask q

/-- Sessions on the same store are echoes step by step, and leave the same store. -/
theorem echo_run (ids ids' : Nat → Uuid) (state : σ × π) (state' : σ × π')
    (hstate : state'.1 = state.1) (steps : List Step) :
    let first := run ⟨⟨policy, notifier⟩, timeout⟩ stock publisher ids state steps
    let second := run ⟨⟨policy, notifier'⟩, timeout⟩ stock publisher' ids' state' steps
    second.1.1 = first.1.1 ∧ List.Forall₂ (Echo notifier notifier') first.2 second.2 := by
  induction steps generalizing ids ids' state state' with
  | nil => exact ⟨hstate, .nil⟩
  | cons s rest ih =>
    obtain ⟨store, begin⟩ := state
    obtain ⟨_, begin'⟩ := state'
    cases hstate
    have hnow := echoes_step policy notifier notifier' timeout stock publisher publisher' (ids 0)
      (ids' 0) store begin begin' s
    obtain ⟨hstore, hrest⟩ := ih (fun n => ids (n + 1)) (fun n => ids' (n + 1)) _ _ hnow.store
    exact ⟨hstore, .cons hnow.entry hrest⟩

end Run

/-! ## Publishers -/

section Publish

variable (app : Http.App) (stock : Stock σ) (publisher : Publisher π) (publisher' : Publisher π')

/-- What becomes of a session does not depend on its publisher and on its identifiers. -/
theorem same_run (ids ids' : Nat → Uuid) (state : σ × π) (state' : σ × π')
    (hstate : state'.1 = state.1) (steps : List Step) :
    let first := run app stock publisher ids state steps
    let second := run app stock publisher' ids' state' steps
    second.1.1 = first.1.1 ∧ second.2 = first.2 := by
  intro first second
  obtain ⟨⟨policy, notifier⟩, timeout⟩ := app
  obtain ⟨hstore, hechoes⟩ := echo_run policy notifier notifier timeout stock publisher publisher'
    ids ids' state state' hstate steps
  have hsame : List.Forall₂ Eq first.2 second.2 := hechoes.imp fun _ _ h => h.eq.symm
  rw [List.forall₂_eq_eq_eq] at hsame
  exact ⟨hstore, hsame.symm⟩

/-- Another topic changes the topics of the messages, and nothing else of a session. -/
theorem renamed_run (topic : String) (ids ids' : Nat → Uuid) (state : σ × π) (state' : σ × π')
    (hstate : state'.1 = state.1) (steps : List Step) :
    let first := run app stock publisher ids state steps
    let renamed := run (onTopic topic app) stock publisher' ids' state' steps
    renamed.1.1 = first.1.1 ∧ renamed.2 = first.2.map (Entry.onTopic topic) := by
  intro first renamed
  obtain ⟨⟨policy, notifier⟩, timeout⟩ := app
  obtain ⟨hstore, hechoes⟩ := echo_run policy notifier ⟨topic⟩ timeout stock publisher publisher'
    ids ids' state state' hstate steps
  have htopics : List.Forall₂ Eq (first.2.map (Entry.onTopic topic)) renamed.2 :=
    List.forall₂_map_left_iff.2 (hechoes.imp fun _ _ h => h.eq_onTopic.symm)
  rw [List.forall₂_eq_eq_eq] at htopics
  exact ⟨hstore, htopics.symm⟩

/-- What becomes of a publisher that is handed messages one after the other. -/
def deliver (begin : π) (messages : List Message) : π :=
  messages.foldl (fun state m => (publisher.publish state m).1) begin

theorem publisher_step (u : Uuid) (state : σ × π) (s : Step) :
    let done := step app stock publisher u state s
    done.1.2 = deliver publisher state.2 done.2.published := by
  cases s with
  | insertDocument d => rfl
  | insertRecord r => rfl
  | ask q =>
    cases q with
    | size => rfl
    | many q => rfl
    | one q => rfl
    | resolve deadline r => exact perform_publisher ..
    | suggest deadline tag => exact perform_publisher ..
    | decideOnline deadline r => exact perform_publisher ..
    | http r => exact perform_publisher ..

theorem publisher_run (ids : Nat → Uuid) (state : σ × π) (steps : List Step) :
    let done := run app stock publisher ids state steps
    done.1.2 = deliver publisher state.2 (done.2.flatMap Entry.published) := by
  induction steps generalizing ids state with
  | nil => rfl
  | cons s rest ih =>
    have hnow := publisher_step app stock publisher (ids 0) state s
    have hrest := ih (fun n => ids (n + 1)) (step app stock publisher (ids 0) state s).1
    simp only [hnow, deliver, ← List.foldl_append] at hrest
    exact hrest

/-- What a publisher does changes no answer, no question to the store, no message and nothing in the
store, and another topic changes nothing but the topic of the messages. The publisher gets those
messages and no others. -/
theorem broker_changes_no_answer (topic : String) (ids ids' : Nat → Uuid) (state : σ) (begin : π)
    (begin' : π') (steps : List Step) :
    let first := run app stock publisher ids (state, begin) steps
    let second := run app stock publisher' ids' (state, begin') steps
    let renamed := run (onTopic topic app) stock publisher' ids' (state, begin') steps
    second.2 = first.2 ∧ second.1.1 = first.1.1 ∧
      renamed.2 = first.2.map (Entry.onTopic topic) ∧ renamed.1.1 = first.1.1 ∧
      first.1.2 = deliver publisher begin (first.2.flatMap Entry.published) := by
  intro first second renamed
  obtain ⟨hstore, hsame⟩ := same_run app stock publisher publisher' ids ids' (state, begin)
    (state, begin') rfl steps
  obtain ⟨hstore', htopics⟩ := renamed_run app stock publisher publisher' topic ids ids'
    (state, begin) (state, begin') rfl steps
  exact ⟨hsame, hstore, htopics, hstore',
    publisher_run app stock publisher ids (state, begin) steps⟩

end Publish

end BoxOffice.Session
