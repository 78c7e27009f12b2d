import BoxOffice.Proofs.Text.Numeral
import BoxOffice.Store.Sql

/-!
# Places in the text of a statement

The text of a statement holds no data: it is the same for all queries of one shape. Its places are numbered as the
values are bound, and each stands in the clause that its value is for.

1. Text depends on the texts among the pieces alone (`SqlPiece.chars_eq_of_texts`), and those on the shape of the
   query (`TicketQuery.texts_eq_of_shape`).
2. `placesIn` reads the places back from the finished text: the number behind each dollar sign, and what the text
   before it is about. What can be read back is put together from plain texts and from clauses (`Clauses`), of
   which each place is found again under its number (`Clauses.placesAfter_chars`).
3. A select is put together in this way (`Select.clauses`), so its places are those of the values that its query
   binds (`statements_hold_no_data`).
-/

namespace BoxOffice

open BoxOffice.Text

variable {q q' : TicketQuery} {single single' : Bool} {ps ps' : List SqlPiece}

/-! ## Shapes -/

/-- What a query asks for, its data aside. -/
structure QueryShape where
  channel : Channel
  byCountry : Bool
  byEvent : Bool
  byTag : Bool
  availableOnly : Bool
  sortByPrice : Bool
  paged : Bool
  single : Bool
  deriving Repr, DecidableEq

/-- The shape of a query, asked for one row or for all. -/
def TicketQuery.shape (q : TicketQuery) (single : Bool) : QueryShape where
  channel := q.filter.channel
  byCountry := q.filter.countryCode.isSome
  byEvent := q.filter.eventId.isSome
  byTag := q.filter.tag.isSome
  availableOnly := q.filter.availableOnly
  sortByPrice := q.sortByPrice
  paged := q.page.isSome
  single := single

namespace SqlPiece

/-- The text of a piece that is no place. -/
def text? : SqlPiece → Option String
  | .text s => some s
  | .bound _ => none

/-- The text of pieces is the same whatever values are bound. -/
theorem chars_eq_of_texts (h : ps.map text? = ps'.map text?) (k : Nat) : chars k ps = chars k ps' := by
  induction ps generalizing ps' k with
  | nil =>
    rw [List.map_nil, eq_comm, List.map_eq_nil_iff] at h
    rw [h]
  | cons p ps ih =>
    obtain ⟨p', ps', rfl, hp, hps⟩ := List.map_eq_cons_iff.1 h.symm
    cases p with
    | text s =>
      cases p' with
      | text s' =>
        cases hp
        rw [chars, chars, ih hps.symm k]
      | bound v' => cases hp
    | bound v =>
      cases p' with
      | text s' => cases hp
      | bound v' => rw [chars, chars, ih hps.symm (k + 1)]

end SqlPiece

theorem map_intercalate {α β : Type} (f : α → β) (sep : List α) (xss : List (List α)) :
    (sep.intercalate xss).map f = (sep.map f).intercalate (xss.map (List.map f)) := by
  induction xss with
  | nil => rfl
  | cons xs xss ih =>
    cases xss with
    | nil => simp
    | cons ys xss =>
      rw [List.intercalate_cons_cons, List.map_append, List.map_append, ih]
      simp only [List.map_cons]
      rw [List.intercalate_cons_cons]

/-- Of an optional clause only counts whether it is there. -/
theorem map_toList_eq {α β γ : Type} {o o' : Option α} {f : α → β} {g : β → γ} (h : o.isSome = o'.isSome)
    (hg : ∀ a a', g (f a) = g (f a')) : (o.map f).toList.map g = (o'.map f).toList.map g := by
  cases o with
  | none =>
    cases o' with
    | none => rfl
    | some a' => cases h
  | some a =>
    cases o' with
    | none => cases h
    | some a' => exact congrArg (fun c => [c]) (hg a a')

section Shape

variable (h : q.shape single = q'.shape single')

include h

theorem TicketQuery.texts_conditions_eq_of_shape :
    q.filter.conditions.map (fun c => c.pieces.map SqlPiece.text?) =
      q'.filter.conditions.map fun c => c.pieces.map SqlPiece.text? := by
  have hchannel : q.filter.channel = q'.filter.channel := congrArg QueryShape.channel h
  have hcountry : q.filter.countryCode.isSome = q'.filter.countryCode.isSome := congrArg QueryShape.byCountry h
  have hevent : q.filter.eventId.isSome = q'.filter.eventId.isSome := congrArg QueryShape.byEvent h
  have htag : q.filter.tag.isSome = q'.filter.tag.isSome := congrArg QueryShape.byTag h
  have hstock : q.filter.availableOnly = q'.filter.availableOnly := congrArg QueryShape.availableOnly h
  unfold TicketFilter.conditions
  simp only [List.map_append]
  rw [hchannel, hstock, map_toList_eq hcountry fun _ _ => rfl, map_toList_eq hevent fun _ _ => rfl,
    map_toList_eq htag fun _ _ => rfl]

theorem TicketQuery.texts_limit_eq_of_shape :
    (q.limit single).pieces.map SqlPiece.text? = (q'.limit single').pieces.map SqlPiece.text? := by
  have hpaged : q.page.isSome = q'.page.isSome := congrArg QueryShape.paged h
  have hsingle : single = single' := congrArg QueryShape.single h
  unfold TicketQuery.limit
  rw [hsingle]
  cases hp : q.page with
  | none =>
    cases hp' : q'.page with
    | none => rfl
    | some page' => simp [hp, hp'] at hpaged
  | some page =>
    cases hp' : q'.page with
    | none => simp [hp, hp'] at hpaged
    | some page' => rfl

/-- Queries of one shape are written with the same texts. -/
theorem TicketQuery.texts_eq_of_shape :
    (q.toSelect single).pieces.map SqlPiece.text? = (q'.toSelect single').pieces.map SqlPiece.text? := by
  have hsort : q.sortByPrice = q'.sortByPrice := congrArg QueryShape.sortByPrice h
  unfold toSelect Select.pieces
  simp only [List.map_append, map_intercalate, List.map_map, Function.comp_def]
  rw [texts_conditions_eq_of_shape h, texts_limit_eq_of_shape h, hsort]

theorem TicketQuery.sql_eq_of_shape :
    (q.toSelect single).statement.sql = (q'.toSelect single').statement.sql :=
  congrArg String.ofList (SqlPiece.chars_eq_of_texts (texts_eq_of_shape h) 1)

end Shape

/-! ## Places -/

/-- What a value of a statement is for. -/
inductive Subject where
  | ticketType
  | country
  | event
  | tag
  | pageSize
  | pageOffset
  deriving Repr, DecidableEq

namespace Subject

/-- All subjects. -/
def all : List Subject := [.ticketType, .country, .event, .tag, .pageSize, .pageOffset]

/-- What stands right before the place of a subject. -/
def leads : Subject → List String
  | .ticketType => ["COALESCE(document->>'ticketType', '') <> ", "document->>'ticketType' = "]
  | .country => ["document->'country'->>'code' = "]
  | .event => ["document->>'eventId' = "]
  | .tag => ["document->>'tag' = "]
  | .pageSize => [" LIMIT "]
  | .pageOffset => [" OFFSET "]

/-- The text ends in a lead of the subject. -/
def endsIn (s : Subject) (before : List Char) : Bool := s.leads.any fun lead => lead.toList.isSuffixOf before

theorem mem_all (s : Subject) : s ∈ all := by cases s <;> decide

theorem endsIn_iff {s : Subject} {before : List Char} :
    s.endsIn before = true ↔ ∃ lead ∈ s.leads, lead.toList <:+ before := by
  simp only [endsIn, List.any_eq_true, List.isSuffixOf_iff_suffix]

/-- No lead ends in that of another subject. -/
theorem eq_of_lead_suffix : ∀ s ∈ all, ∀ s' ∈ all, ∀ lead ∈ s.leads, ∀ lead' ∈ s'.leads,
    lead.toList <:+ lead'.toList → s = s' := by decide +kernel

/-- A text ends in the leads of one subject only. -/
theorem eq_of_endsIn {s s' : Subject} {before : List Char} (h : s.endsIn before = true)
    (h' : s'.endsIn before = true) : s = s' := by
  obtain ⟨lead, hlead, hsuffix⟩ := endsIn_iff.1 h
  obtain ⟨lead', hlead', hsuffix'⟩ := endsIn_iff.1 h'
  rcases List.suffix_or_suffix_of_suffix hsuffix hsuffix' with hends | hends
  · exact eq_of_lead_suffix s s.mem_all s' s'.mem_all lead hlead lead' hlead' hends
  · exact (eq_of_lead_suffix s' s'.mem_all s s.mem_all lead' hlead' lead hlead hends).symm

end Subject

/-- What a place behind a text is for. -/
def subjectOf? (before : List Char) : Option Subject := Subject.all.find? (·.endsIn before)

/-- A place is for the subject whose lead stands before it. -/
theorem subjectOf?_eq_some_iff {s : Subject} {before : List Char} :
    subjectOf? before = some s ↔ s.endsIn before = true := by
  unfold subjectOf?
  constructor
  · exact List.find?_some
  · intro h
    have hfound : (Subject.all.find? (·.endsIn before)).isSome = true :=
      List.find?_isSome.2 ⟨s, s.mem_all, h⟩
    obtain ⟨s', hs'⟩ := Option.isSome_iff_exists.1 hfound
    have hends := List.find?_some hs'
    rw [hs', Subject.eq_of_endsIn h hends]

/-- The places that follow a text: the number of each, and what it is for. -/
def placesAfter (before : List Char) : List Char → List (Nat × Option Subject)
  | [] => []
  | c :: cs =>
    if c = '$' then
      (natOfDigits (cs.takeWhile isDigit), subjectOf? before) :: placesAfter (before ++ [c]) cs
    else placesAfter (before ++ [c]) cs

/-- The places of a text. Every dollar sign is one. -/
def placesIn (sql : String) : List (Nat × Option Subject) := placesAfter [] sql.toList

/-- The text has no place in it, and does not go on with a number that stands before it. -/
def isPlain (s : String) : Bool := s.toList.head?.any (!isDigit ·) && !s.toList.contains '$'

theorem dollar_notMem_of_isPlain {s : String} (h : isPlain s = true) : '$' ∉ s.toList := by
  have hnot := (Bool.and_eq_true_iff.1 h).2
  simpa using hnot

theorem isDigit_head?_of_isPlain {s : String} (h : isPlain s = true) (rest : List Char) :
    ∀ c ∈ (s.toList ++ rest).head?, isDigit c = false := by
  have hhead := (Bool.and_eq_true_iff.1 h).1
  intro c hc
  cases hcs : s.toList with
  | nil =>
    rw [hcs] at hhead
    cases hhead
  | cons d ds =>
    rw [hcs] at hhead hc
    cases hc
    simpa using hhead

theorem Subject.isPlain_of_mem_leads : ∀ s ∈ all, ∀ lead ∈ s.leads, isPlain lead = true := by decide +kernel

section Reading

variable {before cs rest : List Char} {k : Nat}

/-- A text without dollar signs has no place. -/
theorem placesAfter_append (h : '$' ∉ cs) : placesAfter before (cs ++ rest) = placesAfter (before ++ cs) rest := by
  induction cs generalizing before with
  | nil => rw [List.nil_append, List.append_nil]
  | cons c cs ih =>
    obtain ⟨hc, hcs⟩ := not_or.1 (mt List.mem_cons.2 h)
    rw [List.cons_append, placesAfter, if_neg (Ne.symm hc), ih hcs, List.append_assoc, List.singleton_append]

theorem dollar_notMem_natDigits (k : Nat) : '$' ∉ natDigits k := by
  intro h
  exact absurd (isDigit_of_mem_natDigits k _ h) (by decide)

/-- A place has the number that is written behind it. -/
theorem placesAfter_place (h : ∀ c ∈ rest.head?, isDigit c = false) :
    placesAfter before ('$' :: natDigits k ++ rest) =
      (k, subjectOf? before) :: placesAfter (before ++ '$' :: natDigits k) rest := by
  rw [List.cons_append, placesAfter, if_pos rfl, takeWhile_natDigits_append h, natOfDigits_natDigits,
    placesAfter_append (dollar_notMem_natDigits k), List.append_assoc, List.singleton_append]

end Reading

/-! ## Clauses -/

/-- The pieces are plain texts and clauses. A clause is the lead of a subject and a place for its value. -/
inductive Clauses : List SqlPiece → List (Subject × SqlValue) → Prop
  | nil : Clauses [] []
  | text {s : String} {ps : List SqlPiece} {bs : List (Subject × SqlValue)} :
      isPlain s = true → Clauses ps bs → Clauses (.text s :: ps) bs
  | place {subject : Subject} {lead : String} {v : SqlValue} {ps : List SqlPiece}
      {bs : List (Subject × SqlValue)} :
      lead ∈ subject.leads → Clauses ps bs → Clauses (.text lead :: .bound v :: ps) ((subject, v) :: bs)

namespace Clauses

variable {bs bs' : List (Subject × SqlValue)}

theorem append (h : Clauses ps bs) (h' : Clauses ps' bs') : Clauses (ps ++ ps') (bs ++ bs') := by
  induction h with
  | nil => exact h'
  | text hs _ ih => exact .text hs ih
  | place hlead _ ih => exact .place hlead ih

theorem intercalate {sep : List SqlPiece} {α : Type} {pieces : α → List SqlPiece}
    {bindings : α → List (Subject × SqlValue)} (hsep : Clauses sep [])
    (h : ∀ a, Clauses (pieces a) (bindings a)) (as : List α) :
    Clauses (sep.intercalate (as.map pieces)) (as.flatMap bindings) := by
  induction as with
  | nil => exact .nil
  | cons a as ih =>
    cases as with
    | nil =>
      rw [List.map_singleton, List.intercalate_singleton, List.flatMap_singleton]
      exact h a
    | cons b as =>
      have hall := ((h a).append hsep).append ih
      rw [List.append_nil] at hall
      rw [List.map_cons, List.map_cons, List.intercalate_cons_cons, List.flatMap_cons]
      exact hall

/-- The values are bound in the order of their places. -/
theorem filterMap_value? (h : Clauses ps bs) : ps.filterMap SqlPiece.value? = bs.map Prod.snd := by
  induction h with
  | nil => rfl
  | text _ _ ih => exact ih
  | place _ _ ih => exact congrArg (_ :: ·) ih

/-- The text of clauses goes on with no number that stands before it. -/
theorem isDigit_head?_chars (h : Clauses ps bs) (k : Nat) :
    ∀ c ∈ (SqlPiece.chars k ps).head?, isDigit c = false := by
  cases h with
  | nil => exact nofun
  | text hs _ => exact isDigit_head?_of_isPlain hs _
  | @place subject lead _ _ _ hlead _ =>
    exact isDigit_head?_of_isPlain (subject.isPlain_of_mem_leads subject.mem_all lead hlead) _

/-- The places of clauses are read back, numbered in their order, each for its subject. -/
theorem placesAfter_chars (h : Clauses ps bs) (before : List Char) (k : Nat) :
    placesAfter before (SqlPiece.chars k ps) = (bs.zipIdx k).map fun b => (b.2, some b.1.1) := by
  induction h generalizing before k with
  | nil => rfl
  | text hs _ ih => rw [SqlPiece.chars, placesAfter_append (dollar_notMem_of_isPlain hs), ih]
  | @place subject lead v ps bs hlead hps ih =>
    have hplain := subject.isPlain_of_mem_leads subject.mem_all lead hlead
    have hends : subject.endsIn (before ++ lead.toList) = true :=
      Subject.endsIn_iff.2 ⟨lead, hlead, List.suffix_append before lead.toList⟩
    rw [SqlPiece.chars, SqlPiece.chars, placesAfter_append (dollar_notMem_of_isPlain hplain),
      placesAfter_place (hps.isDigit_head?_chars (k + 1)), subjectOf?_eq_some_iff.2 hends, ih,
      List.zipIdx_cons, List.map_cons]

end Clauses

/-! ## Selects -/

/-- The value that a condition binds. -/
def Condition.bindings : Condition → List (Subject × SqlValue)
  | .soldOffline => [(.ticketType, .text onlineTicketType)]
  | .soldOnline => [(.ticketType, .text onlineTicketType)]
  | .inCountry code => [(.country, .text code.text)]
  | .atEvent event => [(.event, .text event.text)]
  | .tagged tag => [(.tag, .text tag.text)]
  | .inStock => []

/-- The values that a limit binds. -/
def RowLimit.bindings : RowLimit → List (Subject × SqlValue)
  | .all => []
  | .first => []
  | .page size offset => [(.pageSize, .bigint size), (.pageOffset, .bigint offset)]

theorem Condition.clauses (c : Condition) : Clauses c.pieces c.bindings := by
  cases c with
  | soldOffline => exact .place (by decide) .nil
  | soldOnline => exact .place (by decide) .nil
  | inCountry code => exact .place (by decide) .nil
  | atEvent event => exact .place (by decide) .nil
  | tagged tag => exact .place (by decide) .nil
  | inStock => exact .text (by decide +kernel) .nil

theorem RowLimit.clauses (l : RowLimit) : Clauses l.pieces l.bindings := by
  cases l with
  | all => exact .nil
  | first => exact .text (by decide +kernel) .nil
  | page size offset => exact .place (by decide) (.place (by decide) .nil)

/-- A select is put together from plain texts and from clauses. -/
theorem Select.clauses (s : Select) :
    Clauses s.pieces (s.conditions.flatMap Condition.bindings ++ s.limit.bindings) := by
  have hselect : Clauses [.text "SELECT document FROM ticket_detail WHERE "] [] :=
    .text (by decide +kernel) .nil
  have hand : Clauses [.text " AND "] [] := .text (by decide +kernel) .nil
  have horder : Clauses (if s.byPrice then
      [.text " ORDER BY (document->>'ticketPrice')::bigint ASC, id ASC"] else []) [] := by
    split
    · exact .text (by decide +kernel) .nil
    · exact .nil
  have hconditions := Clauses.intercalate hand Condition.clauses s.conditions
  have hall := ((hselect.append hconditions).append horder).append s.limit.clauses
  rwa [List.nil_append, List.append_nil] at hall

/-- The values that a page binds. -/
def Page.bindings (p : Page) : List (Subject × SqlValue) :=
  [(.pageSize, .bigint (Int64.ofNat p.size.toNat)), (.pageOffset, .bigint p.boundedOffset)]

/-- The values that a query binds, and what each is for. -/
def TicketQuery.bindings (q : TicketQuery) : List (Subject × SqlValue) :=
  [(.ticketType, .text "Online")] ++
    (q.filter.countryCode.map fun c => (.country, .text c.text)).toList ++
    (q.filter.eventId.map fun e => (.event, .text e.text)).toList ++
    (q.filter.tag.map fun t => (.tag, .text t.text)).toList ++
    q.page.elim [] Page.bindings

/-- Asked for one row or for all, a query binds the same values. -/
theorem TicketQuery.bindings_toSelect (q : TicketQuery) (single : Bool) :
    (q.toSelect single).conditions.flatMap Condition.bindings ++ (q.toSelect single).limit.bindings =
      q.bindings := by
  have hoption : ∀ {α : Type} (o : Option α) (f : α → Condition) (g : α → Subject × SqlValue),
      (∀ a, (f a).bindings = [g a]) → (o.map f).toList.flatMap Condition.bindings = (o.map g).toList := by
    intro α o f g hfg
    cases o with
    | none => rfl
    | some a => simpa using hfg a
  have hchannel : q.filter.channel.condition.bindings = [(.ticketType, .text "Online")] := by
    cases q.filter.channel <;> rfl
  have hstock : (if q.filter.availableOnly then [Condition.inStock] else []).flatMap Condition.bindings = [] := by
    split <;> rfl
  have hlimit : (q.limit single).bindings = q.page.elim [] Page.bindings := by
    unfold limit
    cases q.page with
    | some page => rfl
    | none => cases single <;> rfl
  unfold toSelect TicketFilter.conditions bindings
  simp only [List.flatMap_append, List.flatMap_singleton]
  rw [hchannel, hstock, hlimit, hoption _ _ _ fun _ => rfl, hoption _ _ _ fun _ => rfl,
    hoption _ _ _ fun _ => rfl, List.append_nil]

theorem TicketQuery.clauses (q : TicketQuery) (single : Bool) :
    Clauses (q.toSelect single).pieces q.bindings := by
  rw [← q.bindings_toSelect single]
  exact (q.toSelect single).clauses

/-- Queries of one shape have the same text, whatever their data are. The places in a text are numbered from one,
without a gap, and each value is bound to the place that is for it. -/
theorem statements_hold_no_data :
    (∀ q q' single single', TicketQuery.shape q single = TicketQuery.shape q' single' →
      (q.toSelect single).statement.sql = (q'.toSelect single').statement.sql) ∧
    ∀ (q : TicketQuery) (single : Bool),
      let s := (q.toSelect single).statement
      s.binds = q.bindings.map Prod.snd ∧
        placesIn s.sql = (q.bindings.zipIdx 1).map (fun b => (b.2, some b.1.1)) ∧
        (placesIn s.sql).map Prod.fst = List.range' 1 s.binds.length := by
  refine ⟨fun q q' single single' h => TicketQuery.sql_eq_of_shape h, ?_⟩
  intro q single s
  have hbinds : s.binds = q.bindings.map Prod.snd := (q.clauses single).filterMap_value?
  have hplaces : placesIn s.sql = (q.bindings.zipIdx 1).map fun b => (b.2, some b.1.1) := by
    unfold placesIn
    show placesAfter [] (String.ofList (SqlPiece.chars 1 (q.toSelect single).pieces)).toList = _
    rw [String.toList_ofList]
    exact (q.clauses single).placesAfter_chars [] 1
  refine ⟨hbinds, hplaces, ?_⟩
  rw [hplaces, hbinds, List.map_map, List.length_map]
  exact List.zipIdx_map_snd 1 q.bindings

/-- A country code that reads like a piece of a statement. -/
def oddCode : CountryCode := ⟨"' OR $3 <> '$9", by decide, trimmed_of_ends rfl rfl rfl rfl⟩

/-- With an odd country code the text is that for any other code, and the code is bound in its place. -/
theorem statements_hold_no_data_of_odd_code :
    let event : EventId := ⟨"e-1", by decide, trimmed_of_ends rfl rfl rfl rfl⟩
    let odd : TicketQuery := .offlineByCountryEvent oddCode event
    let plain : TicketQuery := .offlineByCountryEvent ⟨"ID", by decide, trimmed_of_ends rfl rfl rfl rfl⟩ event
    let s := (odd.toSelect false).statement
    odd.shape false = plain.shape false ∧ s.sql = (plain.toSelect false).statement.sql ∧
      s.binds = [.text "Online", .text oddCode.text, .text "e-1"] ∧
      placesIn s.sql = [(1, some .ticketType), (2, some .country), (3, some .event)] := by
  intro event odd plain s
  have hshape : odd.shape false = plain.shape false := rfl
  obtain ⟨hbinds, hplaces, -⟩ := statements_hold_no_data.2 odd false
  exact ⟨hshape, statements_hold_no_data.1 odd plain false false hshape, hbinds, hplaces⟩

end BoxOffice
