import BoxOffice.Proofs.Chain
import BoxOffice.Proofs.Store.Selection

/-!
# Lookups in memory

A lookup decodes what its query selects. `findMany` succeeds with all records of the selection, in
its order, or fails with the first document of the selection that is no record; `findOne` looks at
the head of the selection alone.
-/

namespace BoxOffice

open BoxOffice.Json

/-- The documents decode to the records, one by one. -/
def Decodes (ds : List Value) (rs : List TicketRecord) : Prop :=
  List.Forall₂ (fun d r => TicketRecord.ofValue d = .ok r) ds rs

/-- The document is no record. -/
def Malformed (d : Value) : Prop := ∀ r, TicketRecord.ofValue d ≠ .ok r

theorem malformed_iff {d : Value} : Malformed d ↔ ∃ e, TicketRecord.ofValue d = .error e := by
  unfold Malformed
  cases TicketRecord.ofValue d <;> simp

theorem decodes_or_exists_malformed (ds : List Value) :
    (∃ rs, Decodes ds rs) ∨ ∃ d ∈ ds, Malformed d :=
  forall₂_or_exists_error TicketRecord.ofValue ds

namespace Decodes

variable {ds : List Value} {rs rs' : List TicketRecord}

theorem unique (h : Decodes ds rs) (h' : Decodes ds rs') : rs = rs' := by
  have := (mapM_eq_ok_iff.2 h).symm.trans (mapM_eq_ok_iff.2 h')
  cases this
  rfl

theorem exists_of_mem (h : Decodes ds rs) {d : Value} (hd : d ∈ ds) :
    ∃ r ∈ rs, TicketRecord.ofValue d = .ok r := by
  induction h with
  | nil => cases hd
  | cons hr _ ih =>
    rcases List.mem_cons.1 hd with rfl | hd
    · exact ⟨_, List.mem_cons_self, hr⟩
    · obtain ⟨r, hmem, hok⟩ := ih hd
      exact ⟨r, List.mem_cons_of_mem _ hmem, hok⟩

theorem exists_of_mem_right (h : Decodes ds rs) {r : TicketRecord} (hr : r ∈ rs) :
    ∃ d ∈ ds, TicketRecord.ofValue d = .ok r := by
  induction h with
  | nil => cases hr
  | cons hd _ ih =>
    rcases List.mem_cons.1 hr with rfl | hr
    · exact ⟨_, List.mem_cons_self, hd⟩
    · obtain ⟨d, hmem, hok⟩ := ih hr
      exact ⟨d, List.mem_cons_of_mem _ hmem, hok⟩

/-- The record of a document is in its place. -/
theorem exists_getElem (h : Decodes ds rs) {i : Nat} {d : Value} (hd : ds[i]? = some d) :
    ∃ r, rs[i]? = some r ∧ TicketRecord.ofValue d = .ok r := by
  induction h generalizing i with
  | nil => cases hd
  | cons hr _ ih =>
    cases i with
    | zero =>
      cases hd
      exact ⟨_, rfl, hr⟩
    | succ i => exact ih hd

theorem not_malformed (h : Decodes ds rs) {d : Value} (hd : d ∈ ds) : ¬ Malformed d := by
  obtain ⟨r, -, hr⟩ := h.exists_of_mem hd
  exact fun hm => hm r hr

end Decodes

theorem exists_decodes_iff {ds : List Value} :
    (∃ rs, Decodes ds rs) ↔ ∀ d ∈ ds, ∃ r, TicketRecord.ofValue d = .ok r := by
  constructor
  · rintro ⟨rs, h⟩ d hd
    obtain ⟨r, -, hr⟩ := h.exists_of_mem hd
    exact ⟨r, hr⟩
  · intro h
    rcases decodes_or_exists_malformed ds with hrs | ⟨d, hd, hm⟩
    · exact hrs
    · obtain ⟨r, hr⟩ := h d hd
      exact absurd hr (hm r)

/-! ## The two kinds of lookup -/

namespace TicketQuery

variable {q : TicketQuery} {d : Value}

theorem record_eq_ok_iff {r : TicketRecord} :
    q.record d = .ok r ↔ TicketRecord.ofValue d = .ok r :=
  mapError_eq_ok_iff

theorem record_eq_error_iff {x : StoreError} :
    q.record d = .error x ↔
      ∃ e, TicketRecord.ofValue d = .error e ∧ x = .decode q.operation e.message :=
  mapError_eq_error_iff

end TicketQuery

namespace MemoryStore

variable {s : MemoryStore} {q : TicketQuery}

theorem findMany_eq_ok_iff {data : Option (List TicketRecord)} :
    s.findMany q = .ok data ↔ ∃ rs, Decodes (q.select s.documents) rs ∧ data = some rs := by
  unfold findMany Decodes
  simp only [bind_eq_ok_iff, mapM_eq_ok_iff, TicketQuery.record_eq_ok_iff]
  constructor
  · rintro ⟨rs, hrs, ⟨⟩⟩
    exact ⟨rs, hrs, rfl⟩
  · rintro ⟨rs, hrs, rfl⟩
    exact ⟨rs, hrs, rfl⟩

theorem findMany_eq_error_iff {x : StoreError} :
    s.findMany q = .error x ↔ ∃ before d after rs e, q.select s.documents = before ++ d :: after ∧
      Decodes before rs ∧ TicketRecord.ofValue d = .error e ∧
      x = .decode q.operation e.message := by
  have hmap : s.findMany q = ((q.select s.documents).mapM q.record).map some := by
    unfold findMany
    cases (q.select s.documents).mapM q.record <;> rfl
  rw [hmap, map_eq_error_iff, mapM_eq_error_iff]
  unfold Decodes
  simp only [TicketQuery.record_eq_ok_iff, TicketQuery.record_eq_error_iff]
  constructor
  · rintro ⟨before, d, after, rs, hsplit, hrs, e, he, hx⟩
    exact ⟨before, d, after, rs, e, hsplit, hrs, he, hx⟩
  · rintro ⟨before, d, after, rs, e, hsplit, hrs, he, hx⟩
    exact ⟨before, d, after, rs, hsplit, hrs, e, he, hx⟩

theorem findOne_of_select_nil (h : q.select s.documents = []) : s.findOne q = .ok none := by
  unfold findOne
  rw [h]
  rfl

theorem findOne_of_select_cons {d : Value} {rest : List Value}
    (h : q.select s.documents = d :: rest) : s.findOne q = (q.record d).map some := by
  unfold findOne
  rw [h]
  rfl

theorem findOne_eq_none_iff : s.findOne q = .ok none ↔ q.select s.documents = [] := by
  cases h : q.select s.documents with
  | nil => simp [findOne_of_select_nil h]
  | cons d rest =>
    rw [findOne_of_select_cons h, map_eq_ok_iff]
    simp

theorem findOne_eq_some_iff {r : TicketRecord} :
    s.findOne q = .ok (some r) ↔
      ∃ d rest, q.select s.documents = d :: rest ∧ TicketRecord.ofValue d = .ok r := by
  cases h : q.select s.documents with
  | nil => simp [findOne_of_select_nil h]
  | cons d rest =>
    rw [findOne_of_select_cons h, map_eq_ok_iff]
    simp [TicketQuery.record_eq_ok_iff]

theorem findOne_eq_error_iff {x : StoreError} :
    s.findOne q = .error x ↔ ∃ d rest e, q.select s.documents = d :: rest ∧
      TicketRecord.ofValue d = .error e ∧ x = .decode q.operation e.message := by
  cases h : q.select s.documents with
  | nil => simp [findOne_of_select_nil h]
  | cons d rest =>
    rw [findOne_of_select_cons h, map_eq_error_iff, TicketQuery.record_eq_error_iff]
    simp

theorem findOne_of_findMany {rs : List TicketRecord} (h : s.findMany q = .ok (some rs)) :
    s.findOne q = .ok rs.head? := by
  obtain ⟨_, hrs, ⟨⟩⟩ := findMany_eq_ok_iff.1 h
  unfold Decodes at hrs
  cases hsel : q.select s.documents with
  | nil =>
    rw [hsel] at hrs
    cases hrs
    exact findOne_of_select_nil hsel
  | cons d rest =>
    rw [hsel] at hrs
    cases hrs with
    | cons hd _ => exact findOne_eq_some_iff.2 ⟨d, rest, hsel, hd⟩

end MemoryStore

/-- What a query selects in memory, and what both kinds of lookup make of it. -/
theorem selection_lookups (q : TicketQuery) (ds : List Value) :
    (∀ out, q.IsSelection ds out ↔ out = q.select ds) ∧
    (∀ rs, (⟨ds⟩ : MemoryStore).findMany q = .ok (some rs) ↔ Decodes (q.select ds) rs) ∧
    ((∃ rs, (⟨ds⟩ : MemoryStore).findMany q = .ok (some rs)) ↔
      ∀ d ∈ q.select ds, ∃ r, TicketRecord.ofValue d = .ok r) ∧
    (⟨ds⟩ : MemoryStore).findMany q ≠ .ok none ∧
    (∀ x, (⟨ds⟩ : MemoryStore).findMany q = .error x ↔
      ∃ before d after rs e, q.select ds = before ++ d :: after ∧ Decodes before rs ∧
        TicketRecord.ofValue d = .error e ∧ x = .decode q.operation e.message) ∧
    ((⟨ds⟩ : MemoryStore).findOne q = .ok none ↔ q.select ds = []) ∧
    (∀ r, (⟨ds⟩ : MemoryStore).findOne q = .ok (some r) ↔
      ∃ d rest, q.select ds = d :: rest ∧ TicketRecord.ofValue d = .ok r) ∧
    (∀ x, (⟨ds⟩ : MemoryStore).findOne q = .error x ↔
      ∃ d rest e, q.select ds = d :: rest ∧ TicketRecord.ofValue d = .error e ∧
        x = .decode q.operation e.message) ∧
    (∀ rs, (⟨ds⟩ : MemoryStore).findMany q = .ok (some rs) →
      (⟨ds⟩ : MemoryStore).findOne q = .ok rs.head?) := by
  have hmany : ∀ rs, (⟨ds⟩ : MemoryStore).findMany q = .ok (some rs) ↔ Decodes (q.select ds) rs := by
    intro rs
    simp [MemoryStore.findMany_eq_ok_iff]
  refine ⟨q.isSelection_iff ds, hmany, ?_, ?_, fun x => MemoryStore.findMany_eq_error_iff,
    MemoryStore.findOne_eq_none_iff, fun r => MemoryStore.findOne_eq_some_iff,
    fun x => MemoryStore.findOne_eq_error_iff, fun rs => MemoryStore.findOne_of_findMany⟩
  · simp only [hmany, exists_decodes_iff]
  · simp [MemoryStore.findMany_eq_ok_iff]

end BoxOffice
