import BoxOffice.Proofs.Json.Fields

/-!
# Records laid out in values

A record is written as an object or as an array, its items under the names of the fields in turn (`LaidOut`). From a
value without faults the record is read that the members spell (`PlainReading.record_eq_ok_iff`), whichever of the
two it is.

1. `gatherItems_eq_ok_iff`: the items of an array are found in the order of the fields.
2. `PlainReading.fields_object_eq_ok_iff` and `PlainReading.fields_array_eq_ok_iff`: when the fields are found.
-/

namespace BoxOffice

open BoxOffice.Json

/-! ## Items -/

/-- The items of an array are taken in the order of the fields; those behind the last field are left over. -/
theorem gatherItems_eq_ok_iff {wanted : Wanted} {stop : ArrayEnd} (hstop : stop.careful = .ok ()) {index : Nat}
    {fields : List Field} {items : List Node} {found : Fields} {rest : List Node} :
    gatherItems wanted stop index fields items = .ok (found, rest) ↔
      found = (fields.zip items).map (fun p => (p.1.name, p.2)) ∧ rest = items.drop fields.length ∧
        (∀ p ∈ fields.zip items, p.1.check p.2 = .ok ()) ∧
        ∀ f ∈ fields.drop items.length, f.required = false := by
  induction fields generalizing index items found rest with
  | nil =>
    constructor
    · rintro ⟨⟩
      exact ⟨rfl, rfl, by simp, by simp⟩
    · rintro ⟨rfl, rfl, -, -⟩
      rfl
  | cons f fs ih =>
    cases items with
    | nil =>
      rw [gatherItems, hstop, ofFault_ok_bind]
      cases hreq : f.required with
      | true => simp [hreq]
      | false => simp [ih, hreq]
    | cons n items =>
      rw [gatherItems, bind_eq_ok_iff]
      simp only [bind_eq_ok_iff, Prod.exists, ih]
      constructor
      · rintro ⟨⟨⟩, hcheck, found', rest', ⟨rfl, rfl, hchecks, hmissing⟩, ⟨⟩⟩
        exact ⟨rfl, rfl, List.forall_mem_cons.2 ⟨hcheck, hchecks⟩, hmissing⟩
      · rintro ⟨rfl, rfl, hchecks, hmissing⟩
        obtain ⟨hcheck, hchecks⟩ := List.forall_mem_cons.1 hchecks
        exact ⟨(), hcheck, _, _, ⟨rfl, rfl, hchecks, hmissing⟩, rfl⟩

/-! ## Records -/

/-- The members of a record as a value holds them: those of an object in which none of the names comes twice,
or the items of an array under the names in turn. -/
inductive LaidOut (names : List String) : Value → List (String × Value) → Prop where
  | object {ms : List (String × Value)} (once : NamedOnce names ms) : LaidOut names (.object ms) ms
  | array {items : List Value} (fits : items.length ≤ names.length) :
    LaidOut names (.array items) (names.zip items)

theorem surplus_eq_ok_iff {length : Nat} {stop : ArrayEnd} (hstop : stop = .closed ∨ stop = .known)
    {rest : List Node} : surplus length stop rest = .ok () ↔ rest = [] := by
  rcases hstop with rfl | rfl <;> cases rest <;> simp [surplus]

section Records

variable {node : Value → Node} {fields : List Field}

/-- The items are what the fields admit, one by one. -/
theorem admits_zip_iff (hdistinct : (fields.map Field.name).Nodup) (items : List Value) :
    ((∀ p ∈ fields.zip (items.map node), p.1.check p.2 = .ok ()) ∧
        ∀ f ∈ fields.drop items.length, f.required = false) ↔
      ∀ f ∈ fields, f.Admits node (((fields.map Field.name).zip items).lookup f.name) := by
  induction fields generalizing items with
  | nil => simp
  | cons f fs ih =>
    obtain ⟨hnew, hrest⟩ := List.nodup_cons.1 hdistinct
    cases items with
    | nil => simp [Field.Admits]
    | cons v vs =>
      -- The first item is under the name of the first field, and under no other one.
      have hself : (((f :: fs).map Field.name).zip (v :: vs)).lookup f.name = some v := by simp
      have hother : ∀ g ∈ fs, (((f :: fs).map Field.name).zip (v :: vs)).lookup g.name =
          ((fs.map Field.name).zip vs).lookup g.name := by
        intro g hg
        have hne : g.name ≠ f.name := fun h => hnew (h ▸ List.mem_map_of_mem hg)
        rw [List.map_cons, List.zip_cons_cons, List.lookup_cons, beq_false_of_ne hne]
      have htail : (∀ g ∈ fs, g.Admits node ((((f :: fs).map Field.name).zip (v :: vs)).lookup g.name)) ↔
          ∀ g ∈ fs, g.Admits node (((fs.map Field.name).zip vs).lookup g.name) :=
        forall₂_congr fun g hg => by rw [hother g hg]
      rw [List.forall_mem_cons, hself, htail, ← ih hrest vs]
      simp [Field.Admits, and_assoc]

variable (h : PlainReading node) {name : String}

include h

theorem PlainReading.fields_object_eq_ok_iff {ms : List (String × Value)} {found : Fields} :
    (node (.object ms)).fields name fields = .ok found ↔
      gatherMembers fields (fun n => ofFault n.skip) [] (namedNodes node ms) = .ok found ∧
        found.checkPresent fields = .ok () := by
  rw [h.object, Node.fields]
  simp only [bind_eq_ok_iff]
  constructor
  · rintro ⟨_, hgather, -, -, ⟨⟩, hpresent, ⟨⟩⟩
    exact ⟨hgather, hpresent⟩
  · rintro ⟨hgather, hpresent⟩
    exact ⟨found, hgather, (), rfl, (), hpresent, rfl⟩

theorem PlainReading.fields_array_eq_ok_iff (hdistinct : (fields.map Field.name).Nodup) {items : List Value}
    {found : Fields} :
    (node (.array items)).fields name fields = .ok found ↔
      items.length ≤ (fields.map Field.name).length ∧
        found = ((fields.map Field.name).zip items).map (fun m => (m.1, node m.2)) ∧
        ∀ f ∈ fields, f.Admits node (((fields.map Field.name).zip items).lookup f.name) := by
  obtain ⟨stop, hstop, hnode⟩ := h.array items
  have hcareful : stop.careful = .ok () := by rcases hstop with rfl | rfl <;> rfl
  have hnames : (fields.zip (items.map node)).map (fun p => (p.1.name, p.2)) =
      ((fields.map Field.name).zip items).map fun m => (m.1, node m.2) := by
    simp [List.zip_map_left, List.zip_map_right]
  have hrest : (items.map node).drop fields.length = [] ↔ items.length ≤ (fields.map Field.name).length := by
    simp [List.drop_eq_nil_iff]
  rw [hnode, Node.fields, ← admits_zip_iff hdistinct items, ← hrest, ← hnames]
  simp only [bind_eq_ok_iff, Prod.exists, gatherItems_eq_ok_iff hcareful, surplus_eq_ok_iff hstop,
    List.length_map]
  constructor
  · rintro ⟨_, _, ⟨rfl, rfl, hchecks, hmissing⟩, -, hnil, ⟨⟩⟩
    exact ⟨hnil, rfl, hchecks, hmissing⟩
  · rintro ⟨hnil, rfl, hchecks, hmissing⟩
    exact ⟨_, _, ⟨rfl, rfl, hchecks, hmissing⟩, (), hnil, rfl⟩

variable (hdistinct : (fields.map Field.name).Nodup) {v : Value}

include hdistinct

theorem PlainReading.exists_skipping_iff {ms : List (String × Value)} :
    (∃ found, gatherMembers fields (fun n => ofFault n.skip) [] (namedNodes node ms) = .ok found ∧
        found.checkPresent fields = .ok ()) ↔
      NamedOnce (fields.map Field.name) ms ∧ ∀ f ∈ fields, f.Admits node (ms.lookup f.name) :=
  exists_gathered_iff hdistinct fun v => by rw [h.skip]; rfl

/-- Where the fields of a record are found, they are laid out in the value. -/
theorem PlainReading.laidOut_of_fields {found : Fields} (hfound : (node v).fields name fields = .ok found) :
    ∃ ms, LaidOut (fields.map Field.name) v ms ∧
      ∀ f ∈ fields, found.lookup f.name = (ms.lookup f.name).map node := by
  cases v with
  | object ms =>
    obtain ⟨hgather, hpresent⟩ := h.fields_object_eq_ok_iff.1 hfound
    have honce := ((h.exists_skipping_iff hdistinct).1 ⟨found, hgather, hpresent⟩).1
    exact ⟨ms, .object honce, fun f hf => lookup_gathered hf hgather⟩
  | array items =>
    obtain ⟨hfits, rfl, -⟩ := (h.fields_array_eq_ok_iff hdistinct).1 hfound
    exact ⟨_, .array hfits, fun f _ => lookup_map node _ f.name⟩
  | null => rw [h.null] at hfound; cases hfound
  | bool b => rw [h.bool] at hfound; cases hfound
  | number n => rw [h.number] at hfound; cases hfound
  | string s => rw [h.string] at hfound; cases hfound

/-- The fields of a record are found where they are laid out in a value and admit what they hold there. -/
theorem PlainReading.exists_fields {ms : List (String × Value)} (hms : LaidOut (fields.map Field.name) v ms)
    (hadmits : ∀ f ∈ fields, f.Admits node (ms.lookup f.name)) :
    ∃ found, (node v).fields name fields = .ok found ∧
      ∀ f ∈ fields, found.lookup f.name = (ms.lookup f.name).map node := by
  cases hms with
  | object honce =>
    obtain ⟨found, hgather, hpresent⟩ := (h.exists_skipping_iff hdistinct).2 ⟨honce, hadmits⟩
    exact ⟨found, h.fields_object_eq_ok_iff.2 ⟨hgather, hpresent⟩, fun f hf => lookup_gathered hf hgather⟩
  | array hfits =>
    exact ⟨_, (h.fields_array_eq_ok_iff hdistinct).2 ⟨hfits, rfl, hadmits⟩, fun f _ => lookup_map node _ f.name⟩

/-- A record is read from a value in which its fields are laid out and spell it. -/
theorem PlainReading.record_eq_ok_iff {α : Type} {a : α} {read : Fields → Decoded α}
    {Spells : List (String × Value) → Prop}
    (hread : ∀ found ms, (∀ f ∈ fields, found.lookup f.name = (ms.lookup f.name).map node) →
      (read found = .ok a ↔ Spells ms))
    (hadmits : ∀ ms, Spells ms → ∀ f ∈ fields, f.Admits node (ms.lookup f.name)) :
    ((node v).fields name fields >>= read) = .ok a ↔
      ∃ ms, LaidOut (fields.map Field.name) v ms ∧ Spells ms := by
  rw [bind_eq_ok_iff]
  constructor
  · rintro ⟨found, hfound, hok⟩
    obtain ⟨ms, hms, hlookup⟩ := h.laidOut_of_fields hdistinct hfound
    exact ⟨ms, hms, (hread found ms hlookup).1 hok⟩
  · rintro ⟨ms, hms, hspells⟩
    obtain ⟨found, hfound, hlookup⟩ := h.exists_fields hdistinct hms (hadmits ms hspells)
    exact ⟨found, hfound, (hread found ms hlookup).2 hspells⟩

end Records

end BoxOffice
