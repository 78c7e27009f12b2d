import BoxOffice.Proofs.Chain
import BoxOffice.Proofs.Http.Answer
import Mathlib.Data.List.Induction

/-!
# Uniform answers

Every question about tickets is answered in JSON, with data or with an error, unless a parameter
stands twice in its query string.

1. The pairs of a query string are read one after the other. What was read so far has each parameter
   as often as it was given (`count_of_foldlM`), and the reading stops at the first one that is given
   again (`givenAgain_of_foldlM`). So the parameters are read if and only if none is given twice
   (`exists_ofQuery_iff`).
2. What the service comes to is put into a `Uniform` answer, whatever it is (`uniform_answerTo`).
3. A parameter that is given again is answered with a text that is no JSON, before anything is asked
   (`not_uniform_repeated`).
-/

namespace BoxOffice.Http

open BoxOffice.Json BoxOffice.Http.App

variable {σ π α : Type} {pairs : List (String × String)} {name : String}

/-! ## Pairs -/

/-- The names of the parameters. -/
def parameterNames : List String := ["countryCode", "eventId"]

/-- No parameter is given twice. Other names may be. -/
def GivenOnce (pairs : List (String × String)) : Prop :=
  ∀ name ∈ parameterNames, (pairs.map Prod.fst).count name ≤ 1

instance (pairs : List (String × String)) : Decidable (GivenOnce pairs) := by
  unfold GivenOnce
  infer_instance

/-- The name is that of the first parameter that is given again. -/
def GivenAgain (name : String) (pairs : List (String × String)) : Prop :=
  ∃ before value after, pairs = before ++ (name, value) :: after ∧ GivenOnce before ∧
    name ∈ parameterNames ∧ name ∈ before.map Prod.fst

theorem GivenAgain.mem_parameterNames (h : GivenAgain name pairs) : name ∈ parameterNames := by
  obtain ⟨_, _, _, -, -, hname, -⟩ := h
  exact hname

theorem GivenAgain.append (h : GivenAgain name pairs) (more : List (String × String)) :
    GivenAgain name (pairs ++ more) := by
  obtain ⟨before, value, after, rfl, honce, hname, hmem⟩ := h
  exact ⟨before, value, after ++ more, by simp, honce, hname, hmem⟩

/-- Where a parameter is given again, it is given twice. -/
theorem GivenAgain.not_givenOnce (h : GivenAgain name pairs) : ¬ GivenOnce pairs := by
  obtain ⟨before, value, after, rfl, -, hname, hmem⟩ := h
  intro honce
  have hle := honce name hname
  have hpos : 0 < (before.map Prod.fst).count name := List.count_pos_iff.2 hmem
  rw [List.map_append, List.map_cons, List.count_append, List.count_cons_self] at hle
  omega

/-! ## Reading the pairs -/

/-- The value that was read for a parameter. -/
def Params.value? (p : Params) (name : String) : Option String :=
  if name = "countryCode" then p.countryCode
  else if name = "eventId" then p.eventId
  else none

/-- What reading one pair does: other names are passed over, a parameter that has a value already is
refused, and any other parameter gets its value. -/
theorem Params.add_cases (p : Params) (name value : String) :
    name ∉ parameterNames ∧ p.add (name, value) = .ok p ∨
    name ∈ parameterNames ∧ p.value? name ≠ none ∧ p.add (name, value) = .error name ∨
    name ∈ parameterNames ∧ p.value? name = none ∧ ∃ p', p.add (name, value) = .ok p' ∧
      ∀ other, p'.value? other = if other = name then some value else p.value? other := by
  obtain ⟨countryCode, eventId⟩ := p
  by_cases hcountry : name = "countryCode"
  · subst hcountry
    cases countryCode with
    | some code => exact .inr (.inl ⟨by decide, nofun, rfl⟩)
    | none => exact .inr (.inr ⟨by decide, rfl, _, rfl, fun other => by grind [Params.value?]⟩)
  · by_cases hevent : name = "eventId"
    · subst hevent
      cases eventId with
      | some id => exact .inr (.inl ⟨by decide, nofun, rfl⟩)
      | none => exact .inr (.inr ⟨by decide, rfl, _, rfl, fun other => by grind [Params.value?]⟩)
    · refine .inl ⟨by simp [parameterNames, hcountry, hevent], ?_⟩
      unfold add
      rw [if_neg hcountry, if_neg hevent]

/-- Pairs are read from the first to the last. -/
theorem foldlM_concat (p : Params) (pair : String × String) :
    (pairs ++ [pair]).foldlM Params.add p =
      pairs.foldlM Params.add p >>= fun p' => p'.add pair := by
  rw [List.foldlM_append]
  simp

/-- Where the pairs were read, each parameter has a value if it was given, and was given once at
most. -/
theorem count_of_foldlM {p : Params} (h : pairs.foldlM Params.add ⟨none, none⟩ = .ok p) :
    ∀ name ∈ parameterNames, (pairs.map Prod.fst).count name = (p.value? name).toList.length := by
  induction pairs using List.reverseRecOn generalizing p with
  | nil =>
    cases h
    decide
  | append_singleton pairs pair ih =>
    rw [foldlM_concat] at h
    obtain ⟨before, hbefore, hadd⟩ := bind_eq_ok_iff.1 h
    have hcount := ih hbefore
    intro other hother
    rw [List.map_append, List.count_append, hcount other hother]
    obtain ⟨name, value⟩ := pair
    obtain ⟨hname, hok⟩ | ⟨-, -, herror⟩ | ⟨-, hnone, p', hok, hvalue⟩ := before.add_cases name value
    · cases hok.symm.trans hadd
      have hne : name ≠ other := fun heq => hname (heq ▸ hother)
      simp [hne]
    · cases herror.symm.trans hadd
    · cases hok.symm.trans hadd
      rw [hvalue]
      by_cases heq : other = name
      · rw [heq, hnone]
        simp
      · simp [heq, Ne.symm heq]

/-- Where the reading stops, a parameter is given again, and its name is reported. -/
theorem givenAgain_of_foldlM (h : pairs.foldlM Params.add ⟨none, none⟩ = .error name) :
    GivenAgain name pairs := by
  induction pairs using List.reverseRecOn with
  | nil => cases h
  | append_singleton pairs pair ih =>
    rw [foldlM_concat] at h
    cases hbefore : pairs.foldlM Params.add ⟨none, none⟩ with
    | error stopped =>
      rw [hbefore] at h
      cases h
      exact (ih hbefore).append [pair]
    | ok before =>
      rw [hbefore] at h
      have hadd : before.add pair = .error name := h
      have hcount := count_of_foldlM hbefore
      have honce : GivenOnce pairs := by
        intro other hother
        rw [hcount other hother]
        exact Option.length_toList_le
      obtain ⟨given, value⟩ := pair
      obtain ⟨-, hok⟩ | ⟨hname, hsome, herror⟩ | ⟨-, -, p', hok, -⟩ := before.add_cases given value
      · cases hok.symm.trans hadd
      · cases herror.symm.trans hadd
        have hpos : 0 < (pairs.map Prod.fst).count name := by
          rw [hcount name hname]
          cases hvalue : before.value? name with
          | none => exact absurd hvalue hsome
          | some value => exact Nat.one_pos
        exact ⟨pairs, value, [], rfl, honce, hname, List.count_pos_iff.1 hpos⟩
      · cases hok.symm.trans hadd

/-- The parameters of a query string are read if and only if none is given twice. -/
theorem exists_ofQuery_iff (query : Option String) :
    (∃ params, Params.ofQuery query = .ok params) ↔ GivenOnce (Form.decode (query.getD "")) := by
  unfold Params.ofQuery
  constructor
  · rintro ⟨params, h⟩ name hname
    rw [count_of_foldlM h name hname]
    exact Option.length_toList_le
  · intro honce
    cases h : (Form.decode (query.getD "")).foldlM Params.add ⟨none, none⟩ with
    | ok params => exact ⟨params, rfl⟩
    | error name => exact absurd honce (givenAgain_of_foldlM h).not_givenOnce

/-! ## Uniform answers -/

/-- The statuses of errors, each with its code. -/
def errorKinds : List (Nat × String) := [
  (400, "validation_error"),
  (404, "not_found"),
  (409, "conflict"),
  (500, "internal_error"),
  (502, "upstream_error")]

/-- A status, and a JSON object that goes with it: data and a message, or an error and a message. -/
inductive Envelope : Nat → Value → Prop
  | success (data : Value) (message : String) :
      Envelope 200 (.object [("data", data), ("message", .string message)])
  | failure {status : Nat} {code : String} (message : String) : (status, code) ∈ errorKinds →
      Envelope status (.object [("error", .string code), ("message", .string message)])

/-- The answer is declared to be JSON, and its body is an object that goes with its status. -/
structure Uniform (a : Response) : Prop where
  contentType : ("content-type", "application/json") ∈ a.headers
  body : ∃ v, Value.ofText a.body = .ok v ∧ Envelope a.status v

theorem mem_errorKinds (e : TicketError) : (Response.statusOf e, e.code) ∈ errorKinds := by
  cases e <;> simp [errorKinds, Response.statusOf, TicketError.code]

/-- The answer to whatever a question came to is uniform. -/
theorem uniform_answerTo {toValue : α → Value} (hvalue : ∀ a, Readable (toValue a)) (id : Uuid)
    (message : String) (result : Except TicketError α) :
    Uniform (withRequestId id (answerTo message toValue result)) := by
  cases result with
  | ok a =>
    refine ⟨List.mem_cons_self, _, ?_, .success (toValue a).ordered message⟩
    exact ofText_body "data" (hvalue a) (by decide) (by decide) message
  | error e =>
    refine ⟨List.mem_cons_self, _, ?_, .failure e.message (mem_errorKinds e)⟩
    exact ofText_body "error" (readable_string e.code) (by decide) (by decide) e.message

/-- The answer to a parameter that is given again. -/
def repeatedAnswer (id : Uuid) (name : String) : Response :=
  withRequestId id (.text 400 (duplicateMessage name))

theorem not_uniform_repeated (id : Uuid) (hname : name ∈ parameterNames) :
    ¬ Uniform (repeatedAnswer id name) := by
  rintro ⟨-, v, hread, -⟩
  have hread : Value.ofText (duplicateMessage name) = .ok v := hread
  have hfault : ∀ name ∈ parameterNames,
      (Value.ofText (duplicateMessage name)).toOption.isNone = true := by decide +kernel
  have hnone := hfault name hname
  rw [hread] at hnone
  cases hnone

/-! ## Questions -/

/-- A question is answered in the uniform way if no parameter is given twice in its query string,
and otherwise with the name of the first one that is, and nothing is done for it. -/
structure AnswersUniformly (id : Uuid) (pairs : List (String × String)) (state : σ × π)
    (p : Performance σ π Response) : Prop where
  uniform : GivenOnce pairs → ∃ a, p.result = .ok a ∧ Uniform a
  repeated : ¬ GivenOnce pairs → ∃ name, GivenAgain name pairs ∧
    p.result = .ok (repeatedAnswer id name) ∧ p.calls = [] ∧ p.published = [] ∧
      p.store = state.1 ∧ p.publisher = state.2

section Perform

variable (app : App) (store : TicketStore σ) (publisher : Publisher π) (state : σ × π) (id : Uuid)
  (query : Option String) (message : String)

theorem answersUniformly_ask {toValue : α → Value} (hvalue : ∀ a, Readable (toValue a))
    (plan : AvailabilityRequest → Plan α) :
    AnswersUniformly id (Form.decode (query.getD "")) state
      (app.service.perform store publisher (some app.timeout) state
        (ask query message toValue plan >>= fun a => pure (withRequestId id a))) where
  uniform honce := by
    obtain ⟨⟨countryCode, eventId⟩, hparams⟩ := (exists_ofQuery_iff query).2 honce
    obtain ⟨q, -, hask⟩ := ask_eq hparams message toValue plan
    rw [hask]
    exact ⟨_, (mirrors_answer app store publisher state id message toValue q).result,
      uniform_answerTo hvalue id message _⟩
  repeated htwice := by
    cases h : Params.ofQuery query with
    | ok params => exact absurd ((exists_ofQuery_iff query).1 ⟨params, h⟩) htwice
    | error name =>
      refine ⟨name, givenAgain_of_foldlM h, ?_⟩
      unfold ask
      rw [h]
      exact ⟨rfl, rfl, rfl, rfl, rfl⟩

end Perform

variable (app : App) (store : TicketStore σ) (publisher : Publisher π) (state : σ × π) (fresh : Uuid)
  (r : Request)

theorem answersUniformly_respond (hget : r.method = "GET")
    (hpath : r.target.path = "/api/tickets/v1/list" ∨ r.target.path = "/api/tickets/v1/online") :
    AnswersUniformly (requestId fresh r) (Form.decode (r.target.query.getD "")) state
      (app.respond store publisher state fresh r) := by
  unfold respond
  rcases hpath with hlist | honline
  · have hendpoint : Endpoint.ofPath? r.target.path = some .listing := by
      rw [hlist]
      decide
    rw [handle_eq app fresh hget hendpoint nofun]
    exact answersUniformly_ask app store publisher state _ _ _ readable_ticketListing _
  · have hendpoint : Endpoint.ofPath? r.target.path = some .online := by
      rw [honline]
      decide
    rw [handle_eq app fresh hget hendpoint nofun]
    exact answersUniformly_ask app store publisher state _ _ _ readable_ticketView _

/-- A question about tickets is answered in the uniform way if and only if no parameter is given
twice in its query string, whatever else stands there. Where one is, the answer is a plain text that
names the first of them, and nothing was asked or published for it. -/
theorem answer_uniform_iff (hget : r.method = "GET")
    (hpath : r.target.path = "/api/tickets/v1/list" ∨ r.target.path = "/api/tickets/v1/online") :
    let pairs := Form.decode (r.target.query.getD "")
    let p := app.respond store publisher state fresh r
    ∃ a, p.result = .ok a ∧ (Uniform a ↔ GivenOnce pairs) ∧
      (¬ GivenOnce pairs → ∃ name, GivenAgain name pairs ∧
        a = repeatedAnswer (requestId fresh r) name ∧ p.calls = [] ∧ p.published = []) := by
  intro pairs p
  have h : AnswersUniformly (requestId fresh r) pairs state p :=
    answersUniformly_respond app store publisher state fresh r hget hpath
  by_cases honce : GivenOnce pairs
  · obtain ⟨a, ha, huniform⟩ := h.uniform honce
    exact ⟨a, ha, iff_of_true huniform honce, fun htwice => absurd honce htwice⟩
  · obtain ⟨name, hagain, ha, hcalls, hpublished, -, -⟩ := h.repeated honce
    refine ⟨_, ha, iff_of_false ?_ honce, fun _ => ⟨name, hagain, rfl, hcalls, hpublished⟩⟩
    exact not_uniform_repeated _ hagain.mem_parameterNames

/-- A question with an unknown name that is given twice, bytes that are no text and an event without
a value is answered in the uniform way. -/
theorem answer_uniform_of_odd_query :
    let r : Request := ⟨"GET", ⟨"/api/tickets/v1/online", some "&x=1&countryCode=%FF%2&x=2&eventId"⟩, []⟩
    let app : App := ⟨.withTopic standardTopic, 1000⟩
    let fresh : Uuid := ⟨List.replicate 32 0, rfl⟩
    let p := app.respond MemoryStore.store .refusing (.empty, ()) fresh r
    GivenOnce (Form.decode (r.target.query.getD "")) ∧ ∃ a, p.result = .ok a ∧ Uniform a := by
  intro r app fresh p
  have honce : GivenOnce (Form.decode (r.target.query.getD "")) := by decide +kernel
  obtain ⟨a, ha, huniform, -⟩ :=
    answer_uniform_iff app MemoryStore.store .refusing (.empty, ()) fresh r rfl (.inr rfl)
  exact ⟨honce, a, ha, huniform.2 honce⟩

/-- A country that is given twice is answered with a text that is no JSON. -/
theorem answer_not_uniform_of_repeated_country :
    let r : Request := ⟨"GET",
      ⟨"/api/tickets/v1/list", some "countryCode=ID&countryCode=ID&eventId=e-1"⟩, []⟩
    let app : App := ⟨.withTopic standardTopic, 5000⟩
    let fresh : Uuid := ⟨List.replicate 32 0, rfl⟩
    ∃ a, (app.respond MemoryStore.store .refusing (.empty, ()) fresh r).result = .ok a ∧
      a.status = 400 ∧ a.body = "Failed to deserialize query string: duplicate field `countryCode`" ∧
      ¬ Uniform a := by
  intro r app fresh
  have ha : (app.respond MemoryStore.store .refusing (.empty, ()) fresh r).result =
      .ok (repeatedAnswer fresh "countryCode") := by decide +kernel
  exact ⟨_, ha, rfl, rfl, not_uniform_repeated fresh (by decide)⟩

end BoxOffice.Http
