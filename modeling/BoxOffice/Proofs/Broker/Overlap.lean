import BoxOffice.Proofs.Broker.Traffic

/-!
# Publishes that overlap

Any number of publishes share a publisher, and their stages are taken in any order.

1. In every state that is reached, the connection that is kept is the one that was opened last, a publish holds
   a connection that was opened, and one that is about to forget has failed on its connection
   (`SharedPublisher.Backed`).
2. A stage that discards a connection is that of a publish whose message was lost: on that connection, or on one
   that was opened before it (`SharedPublisher.Backed.of_discards`). In the second case nothing may be wrong
   with what is discarded.
3. As long as a publish that forgets is the only one that holds a connection, all that hold one hold the one that is
   kept (`SharedPublisher.InStep`), and only that is discarded on which a message was lost.
-/

namespace BoxOffice

/-! ## Publishes at work -/

/-- A publisher and the publishes that share it, each at its stage. -/
structure SharedPublisher (ρ : Type) where
  publisher : RedisPublisher ρ
  publishes : List Publishing

/-- The connection that a publish holds. -/
def Publishing.connection? : Publishing → Option ConnectionId
  | .connected c _ => some c
  | .failing c _ => some c
  | _ => none

/-- The publish is about to forget. -/
def Publishing.isFailing : Publishing → Bool
  | .failing _ _ => true
  | _ => false

/-- The connections that were opened, in their order. -/
def openings (record : List Exchange) : List ConnectionId :=
  record.filterMap fun
    | .connect (.ok c) => some c
    | _ => none

/-- The connections on which messages were lost. -/
def losses (record : List Exchange) : List ConnectionId :=
  record.filterMap fun
    | .send c _ (.error _) => some c
    | _ => none

namespace SharedPublisher

variable {ρ : Type}

/-- Publishes of some messages that have yet to start, on a publisher without a connection. -/
def start (server : ρ) (ms : List Message) : SharedPublisher (ρ × List Exchange) :=
  ⟨(RedisPublisher.disconnected server).recorded, ms.map .waiting⟩

/-- The connection that is kept. -/
def kept (x : SharedPublisher ρ) : Option ConnectionId := x.publisher.connection

/-- What the server was asked. -/
def record (x : SharedPublisher (ρ × List Exchange)) : List Exchange := x.publisher.record

/-- Takes a stage of the publish of a number. -/
def advance (s : RedisServer ρ) (x : SharedPublisher (ρ × List Exchange)) (i : Nat) :
    SharedPublisher (ρ × List Exchange) :=
  match x.publishes[i]? with
  | some stage =>
    let (publisher, stage) := x.publisher.step s.recording stage
    ⟨publisher, x.publishes.set i stage⟩
  | none => x

/-- Takes stages of publishes in the order of a schedule. -/
def run (s : RedisServer ρ) (x : SharedPublisher (ρ × List Exchange)) (schedule : List Nat) :
    SharedPublisher (ρ × List Exchange) :=
  schedule.foldl (advance s) x

/-- Something holds of each stage that is taken in a schedule: of the state before it, and of the number of the publish
whose stage it is. -/
def Along (s : RedisServer ρ) (P : SharedPublisher (ρ × List Exchange) → Nat → Prop) :
    SharedPublisher (ρ × List Exchange) → List Nat → Prop
  | _, [] => True
  | x, i :: later => P x i ∧ Along s P (x.advance s i) later

/-- `Along` is decided stage by stage. -/
instance decidableAlong (s : RedisServer ρ) (P : SharedPublisher (ρ × List Exchange) → Nat → Prop)
    [∀ x i, Decidable (P x i)] :
    (x : SharedPublisher (ρ × List Exchange)) → (schedule : List Nat) → Decidable (Along s P x schedule)
  | _, [] => isTrue trivial
  | x, i :: later => @instDecidableAnd _ _ _ (decidableAlong s P (x.advance s i) later)

/-- The stage discards a connection: it was kept before and is not kept then. -/
def Discards (s : RedisServer ρ) (x : SharedPublisher (ρ × List Exchange)) (i : Nat) (c : ConnectionId) : Prop :=
  x.kept = some c ∧ (x.advance s i).kept ≠ some c

/-- A connection is discarded only if a message was lost on it. -/
def DiscardsLost (s : RedisServer ρ) (x : SharedPublisher (ρ × List Exchange)) (i : Nat) : Prop :=
  ∀ c, Discards s x i c → c ∈ losses x.record

/-- If the publish forgets, no other one holds a connection. -/
def ForgetsAlone (x : SharedPublisher (ρ × List Exchange)) (i : Nat) : Prop :=
  x.publishes[i]?.any Publishing.isFailing = true →
    ∀ j < x.publishes.length, j ≠ i → x.publishes[j]?.bind Publishing.connection? = none

instance (x : SharedPublisher (ρ × List Exchange)) (i : Nat) : Decidable (ForgetsAlone x i) := by
  unfold ForgetsAlone
  infer_instance

/-- If the publish forgets, what is kept is its own connection, or another one on which a message was lost. -/
def ForgetsLost (x : SharedPublisher (ρ × List Exchange)) (i : Nat) : Prop :=
  ∀ c e, x.publishes[i]? = some (.failing c e) → ∀ c', x.kept = some c' → c' = c ∨ c' ∈ losses x.record

variable (s : RedisServer ρ) {x : SharedPublisher (ρ × List Exchange)} {i : Nat}

theorem Along.of_append {P : SharedPublisher (ρ × List Exchange) → Nat → Prop} {before after : List Nat}
    (h : Along s P x (before ++ i :: after)) : P (x.run s before) i := by
  induction before generalizing x with
  | nil => exact h.1
  | cons j before ih => exact ih h.2

/-- What the stage of a publish does. -/
theorem advances_advance {stage : Publishing} (hi : x.publishes[i]? = some stage) :
    ∃ asked stage', Advances x.kept stage (x.advance s i).kept asked stage' ∧
      (x.advance s i).record = x.record ++ asked ∧
      (x.advance s i).publishes = x.publishes.set i stage' := by
  have hadvances := x.publisher.unrecorded.advances s stage
  have hrecord := x.publisher.record_step s stage
  rw [RedisPublisher.step_recording] at hadvances
  refine ⟨x.publisher.unrecorded.asked s stage, (x.publisher.step s.recording stage).2, ?_⟩
  unfold advance
  rw [hi]
  exact ⟨hadvances, hrecord, rfl⟩

theorem advance_of_none (hi : x.publishes[i]? = none) : x.advance s i = x := by
  unfold advance
  rw [hi]

/-- Only the stage of the publish itself changes. -/
theorem stage_of_set {stage stage' : Publishing} {j : Nat}
    (hj : (x.publishes.set i stage')[j]? = some stage) :
    (j = i ∧ stage = stage') ∨ (j ≠ i ∧ x.publishes[j]? = some stage) := by
  rw [List.getElem?_set] at hj
  by_cases hij : i = j
  · rw [if_pos hij] at hj
    split at hj
    · exact .inl ⟨hij.symm, (Option.some.inj hj).symm⟩
    · cases hj
  · rw [if_neg hij] at hj
    exact .inr ⟨Ne.symm hij, hj⟩

end SharedPublisher

/-! ## What backs a connection -/

@[simp] theorem openings_append (record asked : List Exchange) :
    openings (record ++ asked) = openings record ++ openings asked :=
  List.filterMap_append

@[simp] theorem losses_append (record asked : List Exchange) :
    losses (record ++ asked) = losses record ++ losses asked :=
  List.filterMap_append

/-- The connection that a publish holds was opened, and a message was lost on it if the publish is failing. -/
def Publishing.BackedBy (record : List Exchange) : Publishing → Prop
  | .connected c _ => c ∈ openings record
  | .failing c _ => c ∈ openings record ∧ c ∈ losses record
  | _ => True

theorem Publishing.BackedBy.append {record : List Exchange} {stage : Publishing} (h : stage.BackedBy record)
    (asked : List Exchange) : stage.BackedBy (record ++ asked) := by
  cases stage with
  | waiting m => trivial
  | connected c m =>
    show c ∈ openings (record ++ asked)
    rw [openings_append]
    exact List.mem_append_left _ h
  | failing c e =>
    show c ∈ openings (record ++ asked) ∧ c ∈ losses (record ++ asked)
    rw [openings_append, losses_append]
    exact ⟨List.mem_append_left _ h.1, List.mem_append_left _ h.2⟩
  | finished outcome => trivial

/-- The connection that is kept is the one that was opened last. -/
def KeptBy (record : List Exchange) (kept : Option ConnectionId) : Prop :=
  ∀ c, kept = some c → (openings record).getLast? = some c

theorem KeptBy.of_openings_eq_nil {record asked : List Exchange} {kept : Option ConnectionId}
    (h : KeptBy record kept) (hasked : openings asked = []) : KeptBy (record ++ asked) kept := by
  intro c hc
  rw [openings_append, hasked, List.append_nil]
  exact h c hc

/-- A stage keeps up what backs the connection that is kept and the one that its publish holds. -/
theorem Advances.backedBy {kept kept' : Option ConnectionId} {stage stage' : Publishing}
    {record asked : List Exchange} (h : Advances kept stage kept' asked stage')
    (hkept : KeptBy record kept) (hstage : stage.BackedBy record) :
    KeptBy (record ++ asked) kept' ∧ stage'.BackedBy (record ++ asked) := by
  cases h with
  | reused c m =>
    rw [List.append_nil]
    exact ⟨hkept, List.mem_of_getLast? (hkept c rfl)⟩
  | opened c m =>
    have hopened : openings (record ++ [.connect (.ok c)]) = openings record ++ [c] := openings_append _ _
    refine ⟨?_, ?_⟩
    · rintro _ ⟨⟩
      rw [hopened, List.getLast?_concat]
    · show c ∈ openings _
      rw [hopened]
      exact List.mem_append_right _ (List.mem_singleton_self c)
  | refused m e => exact ⟨nofun, trivial⟩
  | delivered _ c m receivers => exact ⟨hkept.of_openings_eq_nil rfl, trivial⟩
  | lost _ c m e =>
    refine ⟨hkept.of_openings_eq_nil rfl, ?_, ?_⟩
    · rw [openings_append]
      exact List.mem_append_left _ hstage
    · rw [losses_append]
      exact List.mem_append_right _ (List.mem_singleton_self c)
  | forgotten _ c e => exact ⟨nofun, trivial⟩
  | settled _ outcome =>
    rw [List.append_nil]
    exact ⟨hkept, trivial⟩

/-- Of two connections that were opened, the one that was not opened last was opened before the other. -/
theorem sublist_of_getLast? {cs : List ConnectionId} {c c' : ConnectionId} (hlast : cs.getLast? = some c)
    (hmem : c' ∈ cs) (hne : c' ≠ c) : [c', c].Sublist cs := by
  obtain ⟨front, rfl⟩ := List.getLast?_eq_some_iff.1 hlast
  rcases List.mem_append.1 hmem with hfront | hlast
  · exact (List.singleton_sublist.2 hfront).append (List.Sublist.refl [c])
  · exact absurd (List.mem_singleton.1 hlast) hne

namespace SharedPublisher

variable {ρ : Type} {s : RedisServer ρ} {x : SharedPublisher (ρ × List Exchange)} {i : Nat}

/-- What is kept and what publishes hold is backed by what the server was asked. -/
structure Backed (x : SharedPublisher (ρ × List Exchange)) : Prop where
  kept : KeptBy x.record x.kept
  stages : ∀ (j : Nat) (stage : Publishing), x.publishes[j]? = some stage → stage.BackedBy x.record

theorem backed_start (server : ρ) (ms : List Message) : (start server ms).Backed where
  kept := nofun
  stages j stage hj := by
    obtain ⟨m, -, rfl⟩ := List.mem_map.1 (List.mem_of_getElem? hj)
    trivial

theorem Backed.advance (hx : x.Backed) (i : Nat) : (x.advance s i).Backed := by
  cases hi : x.publishes[i]? with
  | none =>
    rw [advance_of_none s hi]
    exact hx
  | some stage =>
    obtain ⟨asked, stage', hadvances, hrecord, hpublishes⟩ := advances_advance s hi
    obtain ⟨hkept, hstage'⟩ := hadvances.backedBy hx.kept (hx.stages i stage hi)
    refine ⟨?_, ?_⟩
    · rw [hrecord]
      exact hkept
    · intro j other hj
      rw [hpublishes] at hj
      rw [hrecord]
      rcases stage_of_set hj with ⟨-, rfl⟩ | ⟨-, hother⟩
      · exact hstage'
      · exact (hx.stages j other hother).append asked

theorem Backed.run (hx : x.Backed) (schedule : List Nat) : (x.run s schedule).Backed := by
  induction schedule generalizing x with
  | nil => exact hx
  | cons i later ih => exact ih (hx.advance i)

/-! ## What is discarded -/

/-- A publish that forgets leaves nothing kept. -/
theorem kept_advance_of_failing {c : ConnectionId} {e : String} (hi : x.publishes[i]? = some (.failing c e)) :
    (x.advance s i).kept = none := by
  obtain ⟨_, _, hadvances, -, -⟩ := advances_advance s hi
  generalize x.kept = kept at hadvances
  generalize (x.advance s i).kept = kept' at hadvances ⊢
  cases hadvances
  rfl

/-- Only a publish that forgets discards what is kept. -/
theorem exists_failing_of_discards {c : ConnectionId} (h : Discards s x i c) :
    ∃ c' e, x.publishes[i]? = some (.failing c' e) := by
  obtain ⟨hkept, hnot⟩ := h
  cases hi : x.publishes[i]? with
  | none =>
    rw [advance_of_none s hi] at hnot
    exact absurd hkept hnot
  | some stage =>
    obtain ⟨_, _, hadvances, -, -⟩ := advances_advance s hi
    rw [hkept] at hadvances
    generalize (x.advance s i).kept = kept' at hadvances hnot
    cases hadvances with
    | forgotten _ c' e => exact ⟨c', e, rfl⟩
    | reused _ m => exact absurd rfl hnot
    | delivered _ c' m receivers => exact absurd rfl hnot
    | lost _ c' m e => exact absurd rfl hnot
    | settled _ outcome => exact absurd rfl hnot

theorem Backed.of_discards (hx : x.Backed) {c : ConnectionId} (h : Discards s x i c) :
    ∃ c' e, x.publishes[i]? = some (.failing c' e) ∧ c' ∈ losses x.record ∧
      (c' = c ∨ [c', c].Sublist (openings x.record)) := by
  obtain ⟨c', e, hi⟩ := exists_failing_of_discards h
  obtain ⟨hopened, hlost⟩ := hx.stages i _ hi
  refine ⟨c', e, hi, hlost, ?_⟩
  by_cases hne : c' = c
  · exact .inl hne
  · exact .inr (sublist_of_getLast? (hx.kept c h.1) hopened hne)

/-- A stage keeps the law exactly if it does not forget another connection on which no message was lost. -/
theorem Backed.discardsLost_iff (hx : x.Backed) : DiscardsLost s x i ↔ ForgetsLost x i := by
  constructor
  · intro h c e hi c' hc'
    refine .inr (h c' ⟨hc', ?_⟩)
    rw [kept_advance_of_failing hi]
    exact nofun
  · intro h c hdiscards
    obtain ⟨c', e, hi, hlost, -⟩ := hx.of_discards hdiscards
    rcases h c' e hi c hdiscards.1 with rfl | hlost'
    · exact hlost
    · exact hlost'

theorem Backed.along_iff (hx : x.Backed) (schedule : List Nat) :
    Along s (DiscardsLost s) x schedule ↔ Along s ForgetsLost x schedule := by
  induction schedule generalizing x with
  | nil => exact Iff.rfl
  | cons i later ih => exact and_congr hx.discardsLost_iff (ih (hx.advance i))

/-! ## Publishes in step -/

/-- All publishes that hold a connection hold the one that is kept. -/
def InStep (x : SharedPublisher (ρ × List Exchange)) : Prop :=
  ∀ (j : Nat) (stage : Publishing), x.publishes[j]? = some stage →
    ∀ c, stage.connection? = some c → x.kept = some c

theorem inStep_start (server : ρ) (ms : List Message) : (start server ms).InStep := by
  intro j stage hj c hc
  obtain ⟨m, -, rfl⟩ := List.mem_map.1 (List.mem_of_getElem? hj)
  cases hc

end SharedPublisher

/-- After a stage its publish holds nothing but what is kept; and what is kept changes only where nothing was kept,
or if the publish forgets. -/
theorem Advances.inStep {kept kept' : Option ConnectionId} {stage stage' : Publishing} {asked : List Exchange}
    (h : Advances kept stage kept' asked stage') (hown : ∀ c, stage.connection? = some c → kept = some c) :
    (∀ c, stage'.connection? = some c → kept' = some c) ∧
      (kept' = kept ∨ kept = none ∨ ∃ c e, stage = .failing c e) := by
  cases h with
  | reused c m => exact ⟨fun _ h => h, .inl rfl⟩
  | opened c m => exact ⟨fun _ h => h, .inr (.inl rfl)⟩
  | refused m e => exact ⟨nofun, .inl rfl⟩
  | delivered _ c m receivers => exact ⟨nofun, .inl rfl⟩
  | lost _ c m e => exact ⟨hown, .inl rfl⟩
  | forgotten _ c e => exact ⟨nofun, .inr (.inr ⟨c, e, rfl⟩)⟩
  | settled _ outcome => exact ⟨nofun, .inl rfl⟩

namespace SharedPublisher

variable {ρ : Type} {s : RedisServer ρ} {x : SharedPublisher (ρ × List Exchange)} {i : Nat}

theorem InStep.advance (hx : x.InStep) (hi : ForgetsAlone x i) : (x.advance s i).InStep := by
  cases hstage : x.publishes[i]? with
  | none =>
    rw [advance_of_none s hstage]
    exact hx
  | some stage =>
    obtain ⟨asked, stage', hadvances, -, hpublishes⟩ := advances_advance s hstage
    obtain ⟨hown, hkept⟩ := hadvances.inStep (hx i stage hstage)
    intro j other hj c hc
    rw [hpublishes] at hj
    rcases stage_of_set hj with ⟨-, rfl⟩ | ⟨hne, hother⟩
    · exact hown c hc
    · have hbefore := hx j other hother c hc
      rcases hkept with hsame | hnone | ⟨c', e, rfl⟩
      · exact hsame.trans hbefore
      · rw [hnone] at hbefore
        cases hbefore
      · have hfailing : x.publishes[i]?.any Publishing.isFailing = true := by
          rw [hstage]
          rfl
        have hnone := hi hfailing j (List.getElem?_eq_some_iff.1 hother).1 hne
        rw [hother, Option.bind_some, hc] at hnone
        cases hnone

/-- A publish in step discards its own connection. -/
theorem InStep.forgetsLost (hx : x.InStep) : ForgetsLost x i := by
  intro c e hi c' hc'
  have hc := hx i _ hi c rfl
  rw [hc'] at hc
  exact .inl (Option.some.inj hc)

theorem InStep.along (hx : x.InStep) {schedule : List Nat}
    (hschedule : Along s ForgetsAlone x schedule) : Along s ForgetsLost x schedule := by
  induction schedule generalizing x with
  | nil => trivial
  | cons i later ih => exact ⟨hx.forgetsLost, ih (hx.advance hschedule.1) hschedule.2⟩

end SharedPublisher

open SharedPublisher in
/-- Whatever a server answers, and whatever the order in which publishes take their stages, a connection is discarded by
a publish whose message was lost, on that connection or on one that was opened before it, and such a publish
forgets whatever is kept. So only that is discarded on which a message was lost, exactly if no publish forgets another
connection on which none was lost; which is so if a publish that forgets is always the only one that holds a
connection. -/
theorem discards_after_loss {ρ : Type} (s : RedisServer ρ) (server : ρ) (ms : List Message)
    (schedule : List Nat) :
    let start := SharedPublisher.start server ms
    let x := start.run s schedule
    (∀ i c, Discards s x i c → ∃ c' e, x.publishes[i]? = some (.failing c' e) ∧ c' ∈ losses x.record ∧
      (c' = c ∨ [c', c].Sublist (openings x.record))) ∧
    (∀ i c e, x.publishes[i]? = some (.failing c e) → (x.advance s i).kept = none) ∧
    (Along s (DiscardsLost s) start schedule ↔ Along s ForgetsLost start schedule) ∧
    (Along s ForgetsAlone start schedule → Along s (DiscardsLost s) start schedule) := by
  intro start x
  have hstart : start.Backed := backed_start server ms
  have hx : x.Backed := hstart.run schedule
  refine ⟨fun i c => hx.of_discards, fun i c e => kept_advance_of_failing, hstart.along_iff schedule, ?_⟩
  intro halone
  exact (hstart.along_iff schedule).2 ((inStep_start server ms).along halone)

/-! ## A connection on which nothing was lost -/

/-- Five publishes on a server that answers every other message and closes the connection at the others. -/
def fivePublishes : SharedPublisher (ScriptedRedis × List Exchange) :=
  SharedPublisher.start ⟨true, [some ":1", none, some ":1", none, some ":1"], 0, []⟩
    [⟨"t", "a"⟩, ⟨"t", "b"⟩, ⟨"t", "c"⟩, ⟨"t", "d"⟩, ⟨"t", "e"⟩]

open SharedPublisher in
/-- The first publish opens a connection, and the second and the third take it. The second loses its message and forgets
the connection; the fourth opens another one and delivers its message on it. Then the third loses its message on the
first connection, and discards the one of the fourth, so that the fifth has to open a third one. -/
theorem healthy_connection_discarded :
    let s := ScriptedRedis.server
    let before := fivePublishes.run s [0, 0, 1, 2, 1, 1, 3, 3, 2]
    let after := fivePublishes.run s [0, 0, 1, 2, 1, 1, 3, 3, 2, 2, 4, 4]
    Discards s before 2 1 ∧ losses before.record = [0, 0] ∧ openings after.record = [0, 1, 2] ∧
      ¬ Along s (DiscardsLost s) fivePublishes [0, 0, 1, 2, 1, 1, 3, 3, 2, 2, 4, 4] := by
  intro s before after
  have hdiscards : Discards s before 2 1 := ⟨by decide, by decide⟩
  have hlosses : losses before.record = [0, 0] := by decide
  refine ⟨hdiscards, hlosses, by decide, fun hlaw => ?_⟩
  have hsplit : Along s (DiscardsLost s) fivePublishes ([0, 0, 1, 2, 1, 1, 3, 3, 2] ++ 2 :: [4, 4]) := hlaw
  have hlost : DiscardsLost s before 2 := Along.of_append s hsplit
  have hmem := hlost 1 hdiscards
  rw [hlosses] at hmem
  exact absurd hmem (by decide)

open SharedPublisher in
/-- The discarded connection was opened after the one on which the message was lost. Where the third publish does not
start before the second has forgotten, publishes that share a connection discard only what was lost. -/
theorem discards_after_loss_of_five :
    let s := ScriptedRedis.server
    let x := fivePublishes.run s [0, 0, 1, 2, 1, 1, 3, 3, 2]
    (Discards s x 2 1 ∧ ∃ c' e, (x.publishes[2]? = some (.failing c' e) ∧ (x.advance s 2).kept = none) ∧
      c' ∈ losses x.record ∧ (c' = 1 ∨ [c', 1].Sublist (openings x.record))) ∧
    (Along s ForgetsAlone fivePublishes [0, 1, 0, 1, 1, 2, 3, 2, 3, 3, 4, 4] ∧
      Along s (DiscardsLost s) fivePublishes [0, 1, 0, 1, 1, 2, 3, 2, 3, 3, 4, 4]) := by
  intro s x
  have hdiscards : Discards s x 2 1 := ⟨by decide, by decide⟩
  have halone : Along s ForgetsAlone fivePublishes [0, 1, 0, 1, 1, 2, 3, 2, 3, 3, 4, 4] := by decide
  have hlaw := discards_after_loss s
    ⟨true, [some ":1", none, some ":1", none, some ":1"], 0, []⟩
    [⟨"t", "a"⟩, ⟨"t", "b"⟩, ⟨"t", "c"⟩, ⟨"t", "d"⟩, ⟨"t", "e"⟩]
  obtain ⟨hfirst, hforgets, -⟩ := hlaw [0, 0, 1, 2, 1, 1, 3, 3, 2]
  obtain ⟨c', e, hfailing, hlost, hopened⟩ := hfirst 2 1 hdiscards
  obtain ⟨-, -, -, hinStep⟩ := hlaw [0, 1, 0, 1, 1, 2, 3, 2, 3, 3, 4, 4]
  exact ⟨⟨hdiscards, c', e, ⟨hfailing, hforgets 2 c' e hfailing⟩, hlost, hopened⟩, halone, hinStep halone⟩

end BoxOffice
