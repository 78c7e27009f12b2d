import BoxOffice.Proofs.Service.Isolation
import BoxOffice.Proofs.Session.Broker

/-!
# Reads

In a session on a store in memory, questions leave the documents as they are, whatever comes of them.

1. The documents are at all times those of the beginning and those that were put in since, in their
   order (`documents_run`).
2. So a question is answered as if it were the only one, on a store that was made of these documents
   (`run_asks`). What is asked between two steps makes no difference to the others
   (`reads_leave_no_trace`).
-/

namespace BoxOffice

open BoxOffice.Json

variable {α π π' : Type}

/-- Running a plan leaves a store in memory as it is. -/
theorem Plan.store_run_memory (p : Plan α) (deadline : Option Nat) (time : Nat) (store : MemoryStore) :
    (p.run MemoryStore.store deadline time store).store = store :=
  congrArg Run.store <|
    @Plan.run_eq_of_selects α store.documents store.documents deadline time p fun _ _ => rfl

namespace Session

/-! ## Documents -/

/-- The document that a step puts in. -/
def Step.document? : Step → Option Value
  | .insertDocument d => some d
  | .insertRecord r => some r.toValue.ordered
  | .ask _ => none

/-- The documents that are put in, in their order. -/
def inserted (steps : List Step) : List Value := steps.filterMap Step.document?

theorem inserted_cons (s : Step) (rest : List Step) :
    inserted (s :: rest) = s.document?.toList ++ inserted rest := by
  unfold inserted
  rw [List.filterMap_cons]
  cases s.document? <;> rfl

theorem inserted_append (before after : List Step) :
    inserted (before ++ after) = inserted before ++ inserted after := List.filterMap_append

theorem inserted_asks (questions : List Question) : inserted (questions.map .ask) = [] := by
  unfold inserted
  rw [List.filterMap_map]
  exact List.filterMap_eq_nil_iff.2 fun _ _ => rfl

section Run

variable (app : Http.App) (publisher : Publisher π) (publisher' : Publisher π')

theorem store_ask (u : Uuid) (state : MemoryStore × π) (q : Question) :
    (ask app Stock.memory publisher u state q).1.1 = state.1 := by
  cases q with
  | size => rfl
  | many q => rfl
  | one q => rfl
  | resolve deadline r => exact Plan.store_run_memory ..
  | suggest deadline tag => exact Plan.store_run_memory ..
  | decideOnline deadline r => exact Plan.store_run_memory ..
  | http r => exact Plan.store_run_memory ..

theorem documents_step (u : Uuid) (state : MemoryStore × π) (s : Step) :
    (step app Stock.memory publisher u state s).1.1.documents =
      state.1.documents ++ s.document?.toList := by
  cases s with
  | insertDocument d => rfl
  | insertRecord r => rfl
  | ask q =>
    have hstore := store_ask app publisher u state q
    rw [step, hstore, Step.document?, Option.toList_none, List.append_nil]

/-- The documents are those of the beginning, and those that were put in. -/
theorem documents_run (ids : Nat → Uuid) (state : MemoryStore × π) (steps : List Step) :
    (run app Stock.memory publisher ids state steps).1.1.documents =
      state.1.documents ++ inserted steps := by
  induction steps generalizing ids state with
  | nil => exact (List.append_nil _).symm
  | cons s rest ih =>
    rw [run, ih, documents_step, inserted_cons, List.append_assoc]

/-! ## Answers -/

/-- What is kept of a question that is the only step on a store. -/
def alone (u : Uuid) (begin : π) (store : MemoryStore) (q : Question) : Entry :=
  (ask app Stock.memory publisher u (store, begin) q).2

theorem ask_eq_alone (u u' : Uuid) (state : MemoryStore × π) (begin' : π') (q : Question) :
    (ask app Stock.memory publisher u state q).2 = alone app publisher' u' begin' state.1 q := by
  obtain ⟨⟨policy, notifier⟩, timeout⟩ := app
  obtain ⟨store, begin⟩ := state
  have hecho : Echoes notifier notifier
      (ask ⟨⟨policy, notifier⟩, timeout⟩ Stock.memory publisher' u' (store, begin') q)
      (ask ⟨⟨policy, notifier⟩, timeout⟩ Stock.memory publisher u (store, begin) q) := echoes_ask q
  exact hecho.entry.eq

/-- Questions are answered as if each were the only one. -/
theorem run_asks (u : Uuid) (ids : Nat → Uuid) (state : MemoryStore × π) (begin' : π')
    (questions : List Question) :
    (run app Stock.memory publisher ids state (questions.map .ask)).2 =
      questions.map (alone app publisher' u begin' state.1) := by
  induction questions generalizing ids state with
  | nil => rfl
  | cons q rest ih =>
    have hnow := ask_eq_alone app publisher publisher' (ids 0) u state begin' q
    have hstore := store_ask app publisher (ids 0) state q
    rw [List.map_cons, List.map_cons, run, ih, step, hnow, hstore]

/-- Of what went before, the later steps see the documents only. -/
theorem run_append_of_documents (ids ids' : Nat → Uuid) (state : MemoryStore × π) (begin' : π')
    (before after : List Step) :
    (run app Stock.memory publisher ids state (before ++ after)).2 =
      (run app Stock.memory publisher ids state before).2 ++
        (run app Stock.memory publisher' ids'
          (⟨state.1.documents ++ inserted before⟩, begin') after).2 := by
  have hstore : (run app Stock.memory publisher ids state before).1.1 =
      ⟨state.1.documents ++ inserted before⟩ :=
    congrArg MemoryStore.mk (documents_run app publisher ids state before)
  have hafter := (same_run app Stock.memory publisher publisher' (fun n => ids (n + before.length))
    ids' (run app Stock.memory publisher ids state before).1 (_, begin') hstore.symm after).2
  rw [run_append, hafter]

/-- Questions leave the documents as they are. Each is answered as it would be alone, on a store that
was made of the documents that are there, and the steps after them as if nothing had been asked. -/
theorem reads_leave_no_trace (u : Uuid) (ids ids' : Nat → Uuid) (begin : π) (begin' : π')
    (store : MemoryStore) (before after : List Step) (questions : List Question) :
    let whole := run app Stock.memory publisher ids (store, begin)
      (before ++ (questions.map .ask ++ after))
    let first := run app Stock.memory publisher ids (store, begin) before
    let fresh : MemoryStore := ⟨store.documents ++ inserted before⟩
    let last := run app Stock.memory publisher' ids' (fresh, begin') after
    whole.1.1.documents = store.documents ++ inserted before ++ inserted after ∧
      first.2.length = before.length ∧
      whole.2 = first.2 ++ (questions.map (alone app publisher' u begin' fresh) ++ last.2) := by
  intro whole first fresh last
  refine ⟨?_, length_run app Stock.memory publisher ids (store, begin) before, ?_⟩
  · have hdocuments := documents_run app publisher ids (store, begin)
      (before ++ (questions.map .ask ++ after))
    rw [inserted_append, inserted_append, inserted_asks, List.nil_append] at hdocuments
    rw [List.append_assoc]
    exact hdocuments
  · have hwhole := run_append_of_documents app publisher publisher' ids ids' (store, begin) begin'
      before (questions.map .ask ++ after)
    have hrest := run_append_of_documents app publisher' publisher' ids' ids' (fresh, begin') begin'
      (questions.map .ask) after
    have hanswers := run_asks app publisher' publisher' u ids' (fresh, begin') begin' questions
    rw [inserted_asks, List.append_nil, hanswers] at hrest
    exact hwhole.trans (congrArg (first.2 ++ ·) hrest)

end Run

end Session

end BoxOffice
