import BoxOffice.Proofs.Json.Syntax
import BoxOffice.Proofs.Session.Reads

/-!
# Seeds

A store in memory is filled from a seed file, from documents at once, or by putting in one document after the
other.

1. A file fills a store exactly if its bytes are a text of an array (`ofSeed_eq_ok_iff`). Whatever else it
   holds is refused as no such text.
2. The store from the file, the store of the documents and the store into which they were put hold the same,
   and no session tells them apart (`seedings_agree`).
-/

namespace BoxOffice

open BoxOffice.Json BoxOffice.Text

/-! ## Files -/

theorem exists_of_ordered_eq_array {v : Value} {documents : List Value} (h : v.ordered = .array documents) :
    ∃ items, v = .array items ∧ documents = items.map Value.ordered := by
  cases v with
  | array items =>
    rw [Value.ordered, orderedItems_eq_map] at h
    exact ⟨items, rfl, (Value.array.inj h).symm⟩
  | null => cases h
  | bool b => cases h
  | number n => cases h
  | string s => cases h
  | object ms => cases h

namespace MemoryStore

variable {bytes : List UInt8}

theorem ofSeed_of_array {documents : List Value} (h : Value.ofBytes bytes = .ok (.array documents)) :
    ofSeed (.ok bytes) = .ok ⟨documents⟩ := by
  simp only [ofSeed, h]

/-- A file that was read is refused for its contents only. -/
theorem ofSeed_of_no_array (h : ∀ documents, Value.ofBytes bytes ≠ .ok (.array documents)) :
    ∃ message, ofSeed (.ok bytes) = .error (.format message) := by
  simp only [ofSeed]
  split
  · exact ⟨_, rfl⟩
  · next documents hread => exact absurd hread (h documents)
  · exact ⟨_, rfl⟩

/-- A store comes of a file that holds a text of an array, with the items in order, and of no other. -/
theorem ofSeed_eq_ok_iff {s : MemoryStore} :
    ofSeed (.ok bytes) = .ok s ↔
      ∃ items, JsonText bytes (.array items) ∧ s = ⟨items.map Value.ordered⟩ := by
  constructor
  · intro h
    by_cases harray : ∃ documents, Value.ofBytes bytes = .ok (.array documents)
    · obtain ⟨documents, hread⟩ := harray
      obtain ⟨v, htext, hv⟩ := Value.ofBytes_eq_ok_iff.1 hread
      obtain ⟨items, rfl, rfl⟩ := exists_of_ordered_eq_array hv.symm
      rw [ofSeed_of_array hread] at h
      exact ⟨items, htext, (Except.ok.inj h).symm⟩
    · obtain ⟨message, hformat⟩ := ofSeed_of_no_array (not_exists.1 harray)
      cases hformat.symm.trans h
  · rintro ⟨items, htext, rfl⟩
    have hread := Value.ofBytes_eq_ok_iff.2 ⟨.array items, htext, rfl⟩
    rw [Value.ordered, orderedItems_eq_map] at hread
    exact ofSeed_of_array hread

/-- Of every file that was read either a store comes or a complaint about its format. -/
theorem exists_format_iff :
    (∃ message, ofSeed (.ok bytes) = .error (.format message)) ↔
      ¬ ∃ items, JsonText bytes (.array items) := by
  constructor
  · rintro ⟨message, hformat⟩ ⟨items, htext⟩
    cases hformat.symm.trans (ofSeed_eq_ok_iff.2 ⟨items, htext, rfl⟩)
  · intro h
    refine ofSeed_of_no_array fun documents hread => h ?_
    obtain ⟨items, htext, -⟩ := ofSeed_eq_ok_iff.1 (ofSeed_of_array hread)
    exact ⟨items, htext⟩

/-- Documents that are put in stand behind those that were there. -/
theorem documents_foldl_insertDocument (s : MemoryStore) (ds : List Value) :
    (ds.foldl insertDocument s).documents = s.documents ++ ds := by
  induction ds generalizing s with
  | nil => exact (List.append_nil s.documents).symm
  | cons d ds ih => rw [List.foldl_cons, ih, insertDocument, ← List.append_cons]

/-- No session tells two stores apart: they hold the same documents in the same order, and whatever is put in
and asked then is answered alike, with whatever publisher and identifiers. -/
structure Alike (s s' : MemoryStore) : Prop where
  documents : s.documents = s'.documents
  answers : ∀ {π π' : Type} (app : Http.App) (publisher : Publisher π) (publisher' : Publisher π')
    (ids ids' : Nat → Uuid) (begin : π) (begin' : π') (steps : List Session.Step),
    (Session.run app Stock.memory publisher ids (s, begin) steps).2 =
      (Session.run app Stock.memory publisher' ids' (s', begin') steps).2

theorem alike_of_documents {s s' : MemoryStore} (h : s.documents = s'.documents) : s.Alike s' := by
  refine ⟨h, ?_⟩
  intro π π' app publisher publisher' ids ids' begin begin' steps
  have hstore : s = s' := congrArg MemoryStore.mk h
  have hrun := Session.same_run app Stock.memory publisher publisher' ids ids' (s, begin) (s', begin')
    hstore.symm steps
  exact hrun.2.symm

end MemoryStore

/-- Documents with whole numbers, in order and not nested too deep, fill the same store from a file that holds
a text of their array, at once, and when they are put in one after the other, and no session tells these
stores apart. A file fills a store exactly if it holds a text of an array; every other is refused for its
format. -/
theorem seedings_agree (ds : List Value) (hwhole : (Value.array ds).isWhole = true)
    (horder : (Value.array ds).InOrder) (hdepth : (Value.array ds).depth ≤ greatestDepth) :
    JsonText (Utf8.encode (Value.array ds).text) (.array ds) ∧
      (∀ bytes, JsonText bytes (.array ds) →
        ∃ seeded, MemoryStore.ofSeed (.ok bytes) = .ok seeded ∧ seeded.Alike ⟨ds⟩) ∧
      (ds.foldl MemoryStore.insertDocument .empty).Alike ⟨ds⟩ ∧
      ∀ bytes,
        ((∃ seeded, MemoryStore.ofSeed (.ok bytes) = .ok seeded) ↔
          ∃ items, JsonText bytes (.array items)) ∧
        ((∃ message, MemoryStore.ofSeed (.ok bytes) = .error (.format message)) ↔
          ¬ ∃ items, JsonText bytes (.array items)) := by
  refine ⟨jsonText_text hwhole hdepth, ?_, ?_, fun bytes => ⟨?_, MemoryStore.exists_format_iff⟩⟩
  · intro bytes htext
    have hordered : ds.map Value.ordered = ds := by
      have harray := horder.ordered_eq
      rw [Value.ordered, orderedItems_eq_map] at harray
      exact Value.array.inj harray
    refine ⟨_, MemoryStore.ofSeed_eq_ok_iff.2 ⟨ds, htext, rfl⟩, MemoryStore.alike_of_documents ?_⟩
    exact hordered
  · exact MemoryStore.alike_of_documents (MemoryStore.documents_foldl_insertDocument .empty ds)
  · constructor
    · rintro ⟨seeded, hseeded⟩
      obtain ⟨items, htext, -⟩ := MemoryStore.ofSeed_eq_ok_iff.1 hseeded
      exact ⟨items, htext⟩
    · rintro ⟨items, htext⟩
      exact ⟨_, MemoryStore.ofSeed_eq_ok_iff.2 ⟨items, htext, rfl⟩⟩

/-- A file of three documents: a text beyond ASCII, a negative number, and an object with a nested array, an
escape in a name and a number beyond the signed ones. -/
theorem seeding_of_three_documents :
    let document : Value :=
      .object [("a\n", .array [.null, .bool true]), ("b", .number (.whole (.ofUInt64 18446744073709551615)))]
    let text := "[\"Zürich\",-7,\x7b\"a\\n\":[null,true],\"b\":18446744073709551615\x7d]"
    ∃ seeded, MemoryStore.ofSeed (.ok (Utf8.encode text)) = .ok seeded ∧
      seeded.documents = [.string "Zürich", .int64 (-7), document] := by
  intro document text
  have hinner : Value.InOrder (.array [.null, .bool true]) := by
    refine .array ?_
    simp only [List.forall_mem_cons]
    exact ⟨.null, .bool true, List.forall_mem_nil _⟩
  have hdocument : document.InOrder := by
    refine .object ?_ ?_
    · unfold Ascending
      decide
    · simp only [List.forall_mem_cons]
      exact ⟨hinner, .number _, List.forall_mem_nil _⟩
  have horder : Value.InOrder (.array [.string "Zürich", .int64 (-7), document]) := by
    refine .array ?_
    simp only [List.forall_mem_cons]
    exact ⟨.string _, .number _, hdocument, List.forall_mem_nil _⟩
  have htext : (Value.array [.string "Zürich", .int64 (-7), document]).text = text := by decide +kernel
  obtain ⟨hprinted, hseed, -⟩ :=
    seedings_agree [.string "Zürich", .int64 (-7), document] rfl horder (by decide)
  rw [htext] at hprinted
  obtain ⟨seeded, hseeded, halike⟩ := hseed _ hprinted
  exact ⟨seeded, hseeded, halike.documents⟩

end BoxOffice
