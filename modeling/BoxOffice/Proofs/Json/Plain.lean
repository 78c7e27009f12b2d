import BoxOffice.Decode
import BoxOffice.Proofs.Chain

/-!
# Nodes without faults

A value becomes a node in two ways: as it is held in memory, and as the text of it is read. Neither leaves
a fault in the node, and they differ only in how arrays are said to end.

1. `PlainReading` is what both have in common.
2. A reader gets past such a node, and finds the value in it, in order.
3. A single value is read from the values of one kind, and from no others.
-/

namespace BoxOffice

open BoxOffice.Json BoxOffice.Time

/-- The members of an object as nodes. -/
def namedNodes (node : Value → Node) (ms : List (String × Value)) : List Member :=
  ms.map fun m => (.ok m.1, node m.2)

theorem namedNodes_cons (node : Value → Node) (name : String) (v : Value) (ms : List (String × Value)) :
    namedNodes node ((name, v) :: ms) = (.ok name, node v) :: namedNodes node ms := rfl

/-- A way of making nodes of values in which no fault comes up. -/
structure PlainReading (node : Value → Node) : Prop where
  null : node .null = .null
  bool (b : Bool) : node (.bool b) = .bool b
  number (n : Json.Number) : node (.number n) = .number (some n)
  string (s : String) : node (.string s) = .string (.ok s)
  array (items : List Value) :
    ∃ stop, (stop = .closed ∨ stop = .known) ∧ node (.array items) = .array (items.map node) stop
  object (ms : List (String × Value)) : node (.object ms) = .object (namedNodes node ms) .closed

theorem nodesOfItems_eq_map (items : List Value) : nodesOfItems items = items.map Node.ofValue := by
  induction items with
  | nil => rfl
  | cons v vs ih => rw [nodesOfItems, ih, List.map_cons]

theorem nodesOfMembers_eq (ms : List (String × Value)) : nodesOfMembers ms = namedNodes Node.ofValue ms := by
  induction ms with
  | nil => rfl
  | cons m ms ih =>
    rw [nodesOfMembers, ih]
    rfl

/-- The node of a value in memory is plain. -/
theorem plainReading_ofValue : PlainReading Node.ofValue where
  null := rfl
  bool _ := rfl
  number _ := rfl
  string _ := rfl
  array items := ⟨.known, .inr rfl, by rw [Node.ofValue, nodesOfItems_eq_map]⟩
  object ms := by rw [Node.ofValue, nodesOfMembers_eq]

namespace PlainReading

variable {node : Value → Node}

/-! ## Getting past a node -/

mutual

/-- A reader finds the value in order. -/
theorem value (h : PlainReading node) (v : Value) : (node v).value = .ok v.ordered := by
  match v with
  | .null => rw [h.null]; rfl
  | .bool b => rw [h.bool]; rfl
  | .number n => rw [h.number]; rfl
  | .string s => rw [h.string]; rfl
  | .array items =>
    obtain ⟨stop, hstop, hnode⟩ := h.array items
    rw [hnode, Node.value, h.values items]
    rcases hstop with rfl | rfl <;> rfl
  | .object ms =>
    rw [h.object, Node.value, h.memberValues ms]
    rfl

theorem values (h : PlainReading node) (items : List Value) :
    valuesOfItems (items.map node) = .ok (orderedItems items) := by
  match items with
  | [] => rfl
  | v :: vs =>
    rw [List.map_cons, valuesOfItems, h.value v, h.values vs]
    rfl

theorem memberValues (h : PlainReading node) (ms : List (String × Value)) :
    valuesOfMembers (namedNodes node ms) = .ok (orderedMembers ms) := by
  match ms with
  | [] => rfl
  | (name, v) :: rest =>
    rw [namedNodes_cons, valuesOfMembers, h.value v, h.memberValues rest]
    rfl

end

mutual

/-- A reader who skips a value meets no fault. -/
theorem skip (h : PlainReading node) (v : Value) : (node v).skip = .ok () := by
  match v with
  | .null => rw [h.null]; rfl
  | .bool b => rw [h.bool]; rfl
  | .number n => rw [h.number]; rfl
  | .string s => rw [h.string]; rfl
  | .array items =>
    obtain ⟨stop, hstop, hnode⟩ := h.array items
    rw [hnode, Node.skip, h.skipItems items]
    rcases hstop with rfl | rfl <;> rfl
  | .object ms =>
    rw [h.object, Node.skip, h.skipMembers ms]
    rfl

theorem skipItems (h : PlainReading node) (items : List Value) :
    Json.skipItems (items.map node) = .ok () := by
  match items with
  | [] => rfl
  | v :: vs =>
    rw [List.map_cons, Json.skipItems, h.skip v]
    exact h.skipItems vs

theorem skipMembers (h : PlainReading node) (ms : List (String × Value)) :
    Json.skipMembers (namedNodes node ms) = .ok () := by
  match ms with
  | [] => rfl
  | (name, v) :: rest =>
    rw [namedNodes_cons, Json.skipMembers, h.skip v]
    exact h.skipMembers rest

end

/-! ## Single values -/

section Single

variable (h : PlainReading node) {v : Value}

include h

/-- A text is read from the string that it is. -/
theorem textAs_eq_ok_iff {wanted : Wanted} {s : String} : (node v).textAs wanted = .ok s ↔ v = .string s := by
  cases v with
  | string s' => simp [h.string, Node.textAs]
  | null => simp [h.null, Node.textAs]
  | bool b => simp [h.bool, Node.textAs]
  | number n => simp [h.number, Node.textAs]
  | array items =>
    obtain ⟨stop, -, hnode⟩ := h.array items
    simp [hnode, Node.textAs]
  | object ms => simp [h.object, Node.textAs]

theorem text_eq_ok_iff {s : String} : (node v).text = .ok s ↔ v = .string s := h.textAs_eq_ok_iff

/-- A signed number of 64 bits is read from the whole number that it is. -/
theorem int64_eq_ok_iff {i : Int64} : (node v).int64 = .ok i ↔ v.int64? = some i := by
  cases v with
  | number n =>
    cases n with
    | whole n => cases hn : n.int64? <;> simp [h.number, Node.int64, Value.int64?, hn]
    | real x => simp [h.number, Node.int64, Value.int64?]
  | string s' => simp [h.string, Node.int64, Value.int64?]
  | null => simp [h.null, Node.int64, Value.int64?]
  | bool b => simp [h.bool, Node.int64, Value.int64?]
  | array items =>
    obtain ⟨stop, -, hnode⟩ := h.array items
    simp [hnode, Node.int64, Value.int64?]
  | object ms => simp [h.object, Node.int64, Value.int64?]

/-- An identifier is read from a string. -/
theorem id_eq_ok_iff {kind : IdKind} {a : Id kind} :
    (node v).id kind = .ok a ↔ ∃ s, v = .string s ∧ Id.parse kind s = .ok a := by
  unfold Node.id
  rw [bind_eq_ok_iff]
  simp only [h.text_eq_ok_iff, mapError_eq_ok_iff]

/-- A moment is read from a string. -/
theorem timestamp_eq_ok_iff {t : Timestamp} :
    (node v).timestamp = .ok t ↔ ∃ s, v = .string s ∧ Timestamp.read s = .ok t := by
  unfold Node.timestamp
  rw [bind_eq_ok_iff]
  simp only [h.textAs_eq_ok_iff, mapError_eq_ok_iff]

/-- Nothing is read from null alone, if nothing else may be read from it. -/
theorem optional_eq_ok_iff {α : Type} {decode : Node → Decoded α} {o : Option α}
    (hnull : ∀ a, decode .null ≠ .ok a) :
    Node.optional decode (node v) = .ok o ↔
      v = .null ∧ none = o ∨ ∃ a, decode (node v) = .ok a ∧ some a = o := by
  cases v with
  | null => simp [h.null, Node.optional, hnull]
  | bool b => simp [h.bool, Node.optional, map_eq_ok_iff]
  | number n => simp [h.number, Node.optional, map_eq_ok_iff]
  | string s => simp [h.string, Node.optional, map_eq_ok_iff]
  | array items =>
    obtain ⟨stop, -, hnode⟩ := h.array items
    simp [hnode, Node.optional, map_eq_ok_iff]
  | object ms => simp [h.object, Node.optional, map_eq_ok_iff]

end Single

end PlainReading

end BoxOffice
