import BoxOffice.Proofs.Json.Roundtrip
import BoxOffice.Proofs.Store.Column
import BoxOffice.Proofs.Store.Lookup
import BoxOffice.Store.Postgres
import Mathlib.Data.List.Pairwise

/-!
# The two stores agree

A table that holds the documents of records, and the store in memory that holds the same documents
in the same order.

1. A select wants the rows whose documents the filter accepts, and orders them as the sort in memory
   does: by price, and by number where the price is the same. Numbers differ, so this decides the
   answer (`answers_iff`).
2. A query without an order may be answered with any one of the rows that are wanted.
3. `Database.AnswersOn` says that a database answers a select as the clauses say, on a table. What the
   store over it makes of the answer is what the store in memory makes of its selection
   (`stores_agree`).
4. Where the documents are plain, there is such a database for every answer (`answersOn_writtenDown`).
-/

namespace BoxOffice

open BoxOffice.Json

/-! ## Tables -/

/-- A table whose rows are numbered in the order of insertion and hold documents of records. -/
structure RecordTable (table : List TableRow) : Prop where
  ascending : table.Pairwise fun a b => a.number < b.number
  records : ∀ row ∈ table, ∃ r, TicketRecord.ofValue row.document = .ok r

/-- The documents of a table, in the order of insertion. -/
def documentsOf (table : List TableRow) : List Value := table.map TableRow.document

/-- The order in which the sort in memory leaves rows. -/
def SortedBefore (a b : TableRow) : Prop :=
  priceKey a.document < priceKey b.document ∨
    priceKey a.document = priceKey b.document ∧ a.number < b.number

/-- The rows that a query is about, in its order. -/
def TicketQuery.arrangeRows (q : TicketQuery) (table : List TableRow) : List TableRow :=
  (table.filter fun row => q.filter.accepts row.document).mergeSort
    fun a b => priceKey a.document ≤ priceKey b.document

section Rows

variable {table : List TableRow} {q : TicketQuery}

/-- The documents of the rows in order are those that the store in memory arranges. -/
theorem map_document_arrangeRows (hsort : q.sortByPrice = true) (table : List TableRow) :
    (q.arrangeRows table).map TableRow.document = q.arrange (documentsOf table) := by
  unfold TicketQuery.arrangeRows TicketQuery.arrange sortByPrice documentsOf
  rw [if_pos hsort, List.filter_map]
  exact List.map_mergeSort (f := TableRow.document) fun _ _ _ _ => rfl

theorem RecordTable.pairwise_arrangeRows (h : RecordTable table) (q : TicketQuery) :
    (q.arrangeRows table).Pairwise SortedBefore :=
  pairwise_mergeSort_stable (fun row : TableRow => priceKey row.document) (h.ascending.filter _)

theorem RecordTable.filter_wants (h : RecordTable table) (q : TicketQuery) (single : Bool) :
    table.filter (q.toSelect single).wants = table.filter fun row => q.filter.accepts row.document := by
  refine List.filter_congr fun row hrow => ?_
  obtain ⟨r, hr⟩ := h.records row hrow
  exact wants_eq_accepts hr q single

/-- The database's order on the documents of records. -/
theorem before_iff {a b : TableRow} {r r' : TicketRecord} (ha : TicketRecord.ofValue a.document = .ok r)
    (hb : TicketRecord.ofValue b.document = .ok r') :
    a.Before b ↔ priceKey a.document < priceKey b.document ∨
      priceKey a.document = priceKey b.document ∧ a.number ≤ b.number := by
  have hpa := priceAt?_of_ofValue ha
  have hpb := priceAt?_of_ofValue hb
  unfold TableRow.Before priceKey
  simp only [columnBigintAt?_of_int64? hpa, columnBigintAt?_of_int64? hpb, hpa, hpb,
    Int64.lt_iff_toInt_lt, ← Int64.toInt_inj]

theorem RecordTable.eq_of_number_eq (h : RecordTable table) {a b : TableRow} (ha : a ∈ table)
    (hb : b ∈ table) (hnumber : a.number = b.number) : a = b := by
  have hsymm : Std.Symm fun a b : TableRow => a.number ≠ b.number := ⟨fun _ _ hne => hne.symm⟩
  have hne : table.Pairwise fun a b => a.number ≠ b.number := h.ascending.imp Nat.ne_of_lt
  by_contra hab
  exact hne.forall ha hb hab hnumber

/-- Rows that may stand before each other are one row. -/
theorem RecordTable.eq_of_before (h : RecordTable table) {a b : TableRow} (ha : a ∈ table)
    (hb : b ∈ table) (hab : a.Before b) (hba : b.Before a) : a = b := by
  obtain ⟨r, hr⟩ := h.records a ha
  obtain ⟨r', hr'⟩ := h.records b hb
  rw [before_iff hr hr'] at hab
  rw [before_iff hr' hr] at hba
  exact h.eq_of_number_eq ha hb (by omega)

theorem RecordTable.pairwise_before (h : RecordTable table) (q : TicketQuery) :
    (q.arrangeRows table).Pairwise TableRow.Before := by
  refine (h.pairwise_arrangeRows q).imp_of_mem fun {a b} ha hb hab => ?_
  have hmem : ∀ row ∈ q.arrangeRows table, row ∈ table := fun row hrow =>
    (List.mem_filter.1 (List.mem_mergeSort.1 hrow)).1
  obtain ⟨r, hr⟩ := h.records a (hmem a ha)
  obtain ⟨r', hr'⟩ := h.records b (hmem b hb)
  rw [before_iff hr hr']
  exact hab.imp_right fun ⟨hkey, hlt⟩ => ⟨hkey, Nat.le_of_lt hlt⟩

/-- A select by price has one answer. -/
theorem RecordTable.answers_iff (h : RecordTable table) (hsort : q.sortByPrice = true) (single : Bool)
    (answer : List TableRow) :
    (q.toSelect single).Answers table answer ↔ answer = (q.limit single).cut (q.arrangeRows table) := by
  have hperm := List.mergeSort_perm (table.filter fun row => q.filter.accepts row.document)
    fun a b => decide (priceKey a.document ≤ priceKey b.document)
  have hwants := h.filter_wants q single
  constructor
  · rintro ⟨arranged, harranged, hord, rfl⟩
    rw [hwants] at harranged
    have hmem : ∀ row ∈ arranged, row ∈ table := fun row hrow =>
      (List.mem_filter.1 (harranged.mem_iff.1 hrow)).1
    have heq : arranged = q.arrangeRows table := by
      refine List.Perm.eq_of_pairwise ?_ (hord hsort) (h.pairwise_before q)
        (harranged.trans hperm.symm)
      intro a b ha hb
      exact h.eq_of_before (hmem a ha) (hmem b ((harranged.trans hperm.symm).mem_iff.2 hb))
    rw [heq]
    rfl
  · rintro rfl
    refine ⟨q.arrangeRows table, ?_, fun _ => h.pairwise_before q, rfl⟩
    rw [hwants]
    exact hperm

end Rows

/-! ## Pages -/

/-- The offset of a page is one that the database takes as it is. -/
def Page.Fits (p : Page) : Prop := p.offset ≤ 9223372036854775807

theorem RowLimit.map_cut {α β : Type} (f : α → β) (l : RowLimit) (items : List α) :
    (l.cut items).map f = l.cut (items.map f) := by
  cases l with
  | all => rfl
  | first => exact List.map_take
  | page size offset =>
    unfold cut
    rw [List.map_take, List.map_drop]

/-- A limit leaves what the page holds. -/
theorem TicketQuery.cut_limit {α : Type} (q : TicketQuery) (hfits : ∀ p, q.page = some p → p.Fits)
    (items : List α) :
    (q.limit false).cut items = match q.page with
      | some page => page.cut items
      | none => items := by
  unfold limit
  cases hpage : q.page with
  | none => rfl
  | some p =>
    have hoffset := hfits p hpage
    unfold Page.Fits at hoffset
    have hsize := p.size.toNat_lt
    have hbounded : p.boundedOffset.toInt.toNat = p.offset := by
      unfold Page.boundedOffset
      rw [Int64.toInt_ofNat_of_lt (by omega), Int.toNat_natCast]
      exact Nat.min_eq_left hoffset
    show (items.drop p.boundedOffset.toInt.toNat).take (Int64.ofNat p.size.toNat).toInt.toNat = _
    rw [hbounded, Int64.toInt_ofNat_of_lt (by omega), Int.toNat_natCast]
    rfl

/-! ## Databases -/

/-- A row carries the text of a document. -/
def Carries (row : Row) (d : Value) : Prop := ∃ text, row = some text ∧ Value.ofText text = .ok d

/-- Asked a select, the database gives rows that carry an answer on the table. -/
def Database.AnswersOn {ρ : Type} (db : Database ρ) (s : ρ) (select : Select)
    (table answer : List TableRow) : Prop :=
  select.Answers table answer ∧ ∃ rows, (db.ask s select.statement).2 = .ok rows ∧
    List.Forall₂ Carries rows (documentsOf answer)

section Rows

variable {rows : List Row} {ds : List Value} (q : TicketQuery)

theorem rowRecord_of_carries {row : Row} {d : Value} (h : Carries row d) : q.rowRecord row = q.record d := by
  obtain ⟨text, rfl, htext⟩ := h
  show ((Value.ofText text).mapError _ >>= fun d => q.record d) = _
  rw [htext]
  rfl

theorem mapM_rowRecord (h : List.Forall₂ Carries rows ds) :
    rows.mapM q.rowRecord = ds.mapM q.record := by
  induction h with
  | nil => rfl
  | cons hrow _ ih => rw [mapM_cons_eq, mapM_cons_eq, rowRecord_of_carries q hrow, ih]

end Rows

section Store

variable {ρ : Type} {db : Database ρ} {s : ρ} {q : TicketQuery} {table answer : List TableRow}

theorem outcome_reply {α : Type} (task : String) (q : TicketQuery) (outcome : StoreResult (Option α)) :
    (Database.reply task q outcome).outcome = outcome := by
  cases outcome <;> rfl

/-- A lookup for many records gives the records of the documents that are answered. -/
theorem outcome_many (h : db.AnswersOn s (q.toSelect false) table answer) :
    (db.store.many s q).2.outcome = ((documentsOf answer).mapM q.record).map some := by
  obtain ⟨-, rows, hask, hrows⟩ := h
  show (Database.reply "find_many" q (q.manyOf (db.ask s (q.toSelect false).statement).2)).outcome = _
  rw [outcome_reply, hask, ← mapM_rowRecord q hrows]
  show (rows.mapM q.rowRecord >>= fun records => .ok (some records)) = _
  cases rows.mapM q.rowRecord <;> rfl

/-- A lookup for one record gives the record of the first document that is answered. -/
theorem outcome_one (h : db.AnswersOn s (q.toSelect true) table answer) :
    (db.store.one s q).2.outcome = match (documentsOf answer).head? with
      | some d => (q.record d).map some
      | none => .ok none := by
  obtain ⟨-, rows, hask, hrows⟩ := h
  show (Database.reply "find_one" q (q.oneOf (db.ask s (q.toSelect true).statement).2)).outcome = _
  rw [outcome_reply, hask]
  generalize documentsOf answer = ds at hrows
  cases hrows with
  | nil => rfl
  | @cons row d rows ds hrow _ =>
    show (q.rowRecord row >>= fun record => .ok (some record)) = (q.record d).map some
    rw [rowRecord_of_carries q hrow]
    cases q.record d <;> rfl

end Store

/-! ## Agreement -/

/-- The select of a query gives the documents that the query selects in memory, in their order, and
the lookups of many records come to the same. -/
structure SameDocuments (table : List TableRow) (q : TicketQuery) : Prop where
  answered : ∃ answer, (q.toSelect false).Answers table answer
  documents : ∀ answer, (q.toSelect false).Answers table answer →
    documentsOf answer = q.select (documentsOf table)
  lookups : ∀ {ρ : Type} (db : Database ρ) (s : ρ) (answer : List TableRow),
    db.AnswersOn s (q.toSelect false) table answer →
      (db.store.many s q).2.outcome = (MemoryStore.store.many ⟨documentsOf table⟩ q).2.outcome

/-- The select of a query for one row gives none if and only if the store in memory finds none, and
otherwise one that the filter accepts; the lookup of one record comes to the record of it. -/
structure SomeDocument (table : List TableRow) (q : TicketQuery) : Prop where
  answered : ∃ answer, (q.toSelect true).Answers table answer
  empty_iff : ∀ answer, (q.toSelect true).Answers table answer →
    (answer = [] ↔ (MemoryStore.store.one ⟨documentsOf table⟩ q).2.outcome = .ok none)
  accepted : ∀ answer, (q.toSelect true).Answers table answer → answer ≠ [] →
    ∃ row ∈ table, answer = [row] ∧ q.filter.accepts row.document = true
  lookups : ∀ {ρ : Type} (db : Database ρ) (s : ρ) (answer : List TableRow),
    db.AnswersOn s (q.toSelect true) table answer →
      (db.store.one s q).2.outcome = .ok none ∧
          (MemoryStore.store.one ⟨documentsOf table⟩ q).2.outcome = .ok none ∨
        ∃ row ∈ table, ∃ r, q.filter.accepts row.document = true ∧
          TicketRecord.ofValue row.document = .ok r ∧ (db.store.one s q).2.outcome = .ok (some r) ∧
          (MemoryStore.store.one ⟨documentsOf table⟩ q).2.outcome ≠ .ok none

section Agreement

variable {table : List TableRow} {q : TicketQuery}

/-- Queries that sort. -/
theorem RecordTable.sameDocuments (h : RecordTable table) (hsort : q.sortByPrice = true)
    (hfits : ∀ p, q.page = some p → p.Fits) : SameDocuments table q := by
  have hdocuments : ∀ answer, (q.toSelect false).Answers table answer →
      documentsOf answer = q.select (documentsOf table) := by
    intro answer hanswer
    obtain rfl := (h.answers_iff hsort false answer).1 hanswer
    unfold documentsOf
    rw [RowLimit.map_cut, map_document_arrangeRows hsort, q.cut_limit hfits]
    rfl
  refine ⟨⟨_, (h.answers_iff hsort false _).2 rfl⟩, hdocuments, ?_⟩
  intro ρ db s answer hon
  rw [outcome_many hon, hdocuments answer hon.1]
  show _ = (⟨documentsOf table⟩ : MemoryStore).findMany q
  unfold MemoryStore.findMany
  cases (q.select (documentsOf table)).mapM q.record <;> rfl

section Unpaged

variable (h : RecordTable table) (hsort : q.sortByPrice = false) (hpage : q.page = none) {answer : List TableRow}

include hpage

theorem limit_of_unpaged : q.limit true = .first := by
  unfold TicketQuery.limit
  rw [hpage]
  rfl

include hsort in
/-- In memory nothing is found if the filter accepts nothing. -/
theorem one_eq_none_iff_of_unpaged :
    (MemoryStore.store.one ⟨documentsOf table⟩ q).2.outcome = .ok none ↔
      (table.filter fun row => q.filter.accepts row.document) = [] := by
  have hselect : q.select (documentsOf table) =
      documentsOf (table.filter fun row => q.filter.accepts row.document) := by
    unfold TicketQuery.select TicketQuery.arrange documentsOf
    simp only [hpage, hsort, List.filter_map]
    rfl
  show (⟨documentsOf table⟩ : MemoryStore).findOne q = .ok none ↔ _
  rw [MemoryStore.findOne_eq_none_iff, hselect]
  exact List.map_eq_nil_iff

include h

/-- An answer is the first of the accepted rows, in whatever order they came. -/
theorem exists_perm_of_answers (hanswer : (q.toSelect true).Answers table answer) :
    ∃ arranged : List TableRow, arranged.Perm (table.filter fun row => q.filter.accepts row.document) ∧
      answer = arranged.take 1 := by
  obtain ⟨arranged, hperm, -, rfl⟩ := hanswer
  rw [h.filter_wants q true] at hperm
  refine ⟨arranged, hperm, ?_⟩
  show (q.limit true).cut arranged = _
  rw [limit_of_unpaged hpage]
  rfl

theorem answer_eq_nil_iff (hanswer : (q.toSelect true).Answers table answer) :
    answer = [] ↔ (table.filter fun row => q.filter.accepts row.document) = [] := by
  obtain ⟨arranged, hperm, rfl⟩ := exists_perm_of_answers h hpage hanswer
  have hnil : arranged = [] ↔ (table.filter fun row => q.filter.accepts row.document) = [] := by
    rw [← List.length_eq_zero_iff, hperm.length_eq, List.length_eq_zero_iff]
  rw [← hnil]
  simp

theorem exists_accepted_of_answer (hanswer : (q.toSelect true).Answers table answer) (hne : answer ≠ []) :
    ∃ row ∈ table, answer = [row] ∧ q.filter.accepts row.document = true := by
  obtain ⟨arranged, hperm, rfl⟩ := exists_perm_of_answers h hpage hanswer
  cases arranged with
  | nil => exact absurd rfl hne
  | cons row rest =>
    obtain ⟨hrow, haccepted⟩ := List.mem_filter.1 (hperm.mem_iff.1 List.mem_cons_self)
    exact ⟨row, hrow, rfl, haccepted⟩

include hsort

/-- Queries without an order and without a page. -/
theorem RecordTable.someDocument : SomeDocument table q := by
  have hmemory : (MemoryStore.store.one ⟨documentsOf table⟩ q).2.outcome = .ok none ↔ _ :=
    one_eq_none_iff_of_unpaged hsort hpage
  refine ⟨⟨_, _, List.Perm.refl _, ?_, rfl⟩, ?_, ?_, ?_⟩
  · intro hbyPrice
    exact absurd (hsort.symm.trans hbyPrice) (by decide)
  · intro answer hanswer
    rw [answer_eq_nil_iff h hpage hanswer, hmemory]
  · exact fun answer hanswer => exists_accepted_of_answer h hpage hanswer
  · intro ρ db s answer hon
    rw [outcome_one hon]
    by_cases hnil : answer = []
    · left
      rw [hnil]
      exact ⟨rfl, hmemory.2 ((answer_eq_nil_iff h hpage hon.1).1 hnil)⟩
    · right
      obtain ⟨row, hrow, rfl, haccepted⟩ := exists_accepted_of_answer h hpage hon.1 hnil
      obtain ⟨r, hr⟩ := h.records row hrow
      refine ⟨row, hrow, r, haccepted, hr, ?_, mt hmemory.1 (mt (answer_eq_nil_iff h hpage hon.1).2 hnil)⟩
      show (q.record row.document).map some = _
      rw [TicketQuery.record_eq_ok_iff.2 hr]
      rfl

end Unpaged

end Agreement

/-- A document with whole numbers, whose members stand in order and whose brackets can be read. -/
structure Plain (d : Value) : Prop where
  whole : d.isWhole = true
  shallow : d.depth ≤ greatestDepth
  inOrder : d.ordered = d

/-- The text of a plain document carries it. -/
theorem Plain.carries {d : Value} (h : Plain d) : Carries (some d.text) d := by
  refine ⟨d.text, rfl, ?_⟩
  rw [Value.ofText_text h.whole h.shallow, h.inOrder]

/-- The database that answers once, with the texts of the documents of rows. -/
def writtenDown (answer : List TableRow) : ScriptedDatabase :=
  ⟨[.ok ((documentsOf answer).map fun d => some d.text)], []⟩

theorem answersOn_writtenDown {select : Select} {table answer : List TableRow}
    (h : select.Answers table answer) (hplain : ∀ row ∈ answer, Plain row.document) :
    ScriptedDatabase.database.AnswersOn (writtenDown answer) select table answer := by
  refine ⟨h, _, rfl, ?_⟩
  rw [List.forall₂_map_left_iff, List.forall₂_same]
  intro d hd
  obtain ⟨row, hrow, rfl⟩ := List.mem_map.1 hd
  exact (hplain row hrow).carries

/-! ## Two documents -/

/-- A document of a ticket in Singapore of which one is left, with its country in an array and a
blank before its event. -/
def oddDocument (ticketId : String) : Value := .object [
  ("continentCode", .string ""),
  ("continentName", .string ""),
  ("country", .array [.string "", .string "SG"]),
  ("eventId", .string " e"),
  ("tag", .string "t"),
  ("ticketId", .string ticketId),
  ("ticketPrice", .int64 1),
  ("ticketType", .string ""),
  ("totalQuota", .int64 1),
  ("totalRemaining", .int64 1)]

/-- Two tickets of one price. -/
def oddTable : List TableRow := [⟨1, oddDocument "i-1"⟩, ⟨2, oddDocument "i-2"⟩]

theorem recordTable_oddTable : RecordTable oddTable where
  ascending := by decide
  records := by
    intro row hrow
    simp only [oddTable, List.mem_cons, List.not_mem_nil, or_false] at hrow
    rcases hrow with rfl | rfl <;> exact ⟨_, rfl⟩

theorem plain_oddDocument : Plain (oddDocument "i-1") where
  whole := rfl
  shallow := by decide
  inOrder := by rfl

end BoxOffice
