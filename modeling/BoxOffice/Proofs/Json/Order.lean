import BoxOffice.Proofs.Json.Fields
import Mathlib.Data.String.Basic

/-!
# Members in order

In the members of an object that are in ascending order each name comes once, and under it stands what was
the last under it before (`lookup_orderMembers`). Where a name came only once before, nothing changes under it.
A value in order at every level stays as it is (`Value.InOrder.ordered_eq`).
-/

namespace BoxOffice.Json

variable {ms : List (String × Value)} {name k : String} {v : Value}

/-! ## What stands under a name -/

theorem lookup_cons_ite : List.lookup k ((name, v) :: ms) = if k = name then some v else ms.lookup k := by
  by_cases hk : k = name
  · rw [if_pos hk, hk, List.lookup_cons, beq_self_eq_true]
  · rw [if_neg hk, List.lookup_cons, beq_false_of_ne hk]

theorem lookup_insertMember :
    (insertMember name v ms).lookup k = if k = name then some v else ms.lookup k := by
  induction ms with
  | nil => exact lookup_cons_ite
  | cons m ms ih =>
    obtain ⟨name', w⟩ := m
    unfold insertMember
    split
    · next heq =>
      subst heq
      rw [lookup_cons_ite, lookup_cons_ite]
      split <;> rfl
    · next hne =>
      split
      · rw [lookup_cons_ite]
      · -- A name cannot be both the one before which the member goes and the one of the member.
        rw [lookup_cons_ite, ih, lookup_cons_ite]
        by_cases hk : k = name'
        · rw [if_pos hk, if_pos hk, if_neg fun h => hne (h.symm.trans hk)]
        · rw [if_neg hk, if_neg hk]

/-- Of members with one name the last is kept. -/
theorem lookup_orderMembers : (orderMembers ms).lookup k = ms.reverse.lookup k := by
  have hfold : ∀ ordered, (ms.foldl (fun ordered m => insertMember m.1 m.2 ordered) ordered).lookup k =
      (ms.reverse.lookup k).or (ordered.lookup k) := by
    induction ms with
    | nil => exact fun ordered => rfl
    | cons m ms ih =>
      obtain ⟨name, v⟩ := m
      intro ordered
      rw [List.foldl_cons, ih, lookup_insertMember, List.reverse_cons, List.lookup_append, Option.or_assoc,
        lookup_cons_ite]
      by_cases hk : k = name
      · rw [if_pos hk, if_pos hk, Option.some_or]
      · rw [if_neg hk, if_neg hk, List.lookup_nil, Option.none_or]
  rw [orderMembers, hfold, List.lookup_nil, Option.or_none]

theorem lookup_reverse_of_once (honce : (ms.map Prod.fst).count k ≤ 1) : ms.reverse.lookup k = ms.lookup k := by
  have honce' : (ms.reverse.map Prod.fst).count k ≤ 1 := by
    rw [List.map_reverse, List.count_reverse]
    exact honce
  cases h : ms.lookup k with
  | some v => exact lookup_of_mem honce' (List.mem_reverse.2 (mem_of_lookup h))
  | none =>
    cases h' : ms.reverse.lookup k with
    | none => rfl
    | some v => exact nomatch h.symm.trans (lookup_of_mem honce (List.mem_reverse.1 (mem_of_lookup h')))

theorem orderedItems_eq_map (items : List Value) : orderedItems items = items.map Value.ordered := by
  induction items with
  | nil => rfl
  | cons v vs ih => rw [orderedItems, ih, List.map_cons]

theorem orderedMembers_eq_map (ms : List (String × Value)) :
    orderedMembers ms = ms.map fun m => (m.1, m.2.ordered) := by
  induction ms with
  | nil => rfl
  | cons m ms ih => rw [orderedMembers, ih, List.map_cons]

/-- Where a name comes once, its value is put in order and nothing else. -/
theorem lookup_ordered_of_once (honce : (ms.map Prod.fst).count k ≤ 1) :
    (orderMembers (orderedMembers ms)).lookup k = (ms.lookup k).map Value.ordered := by
  have hnames : (ms.map fun m => (m.1, m.2.ordered)).map Prod.fst = ms.map Prod.fst := by simp
  rw [orderedMembers_eq_map, lookup_orderMembers, lookup_reverse_of_once (by rwa [hnames]), lookup_map]

/-! ## Each name once -/

/-- The names ascend, so that none comes twice. -/
def Ascending (ms : List (String × Value)) : Prop := ms.Pairwise fun a b => a.1 < b.1

theorem mem_insertMember {m : String × Value} (h : m ∈ insertMember name v ms) : m = (name, v) ∨ m ∈ ms := by
  induction ms with
  | nil => exact .inl (List.mem_singleton.1 h)
  | cons m' ms ih =>
    obtain ⟨name', w⟩ := m'
    unfold insertMember at h
    split at h
    · exact (List.mem_cons.1 h).imp_right (List.mem_cons_of_mem _)
    · split at h
      · exact List.mem_cons.1 h
      · rcases List.mem_cons.1 h with rfl | h
        · exact .inr List.mem_cons_self
        · exact (ih h).imp_right (List.mem_cons_of_mem _)

theorem Ascending.insertMember (h : Ascending ms) : Ascending (insertMember name v ms) := by
  induction ms with
  | nil => exact List.pairwise_singleton _ _
  | cons m ms ih =>
    obtain ⟨name', w⟩ := m
    obtain ⟨hfirst, hrest⟩ := List.pairwise_cons.1 h
    unfold Json.insertMember
    split
    · next heq =>
      subst heq
      exact List.pairwise_cons.2 ⟨hfirst, hrest⟩
    · next hne =>
      split
      · next hlt =>
        refine List.pairwise_cons.2 ⟨fun m hm => ?_, h⟩
        rcases List.mem_cons.1 hm with rfl | hm
        · exact hlt
        · exact lt_trans hlt (hfirst m hm)
      · next hnlt =>
        have hgt : name' < name := lt_of_le_of_ne (not_lt.1 hnlt) (Ne.symm hne)
        refine List.pairwise_cons.2 ⟨fun m hm => ?_, ih hrest⟩
        rcases mem_insertMember hm with rfl | hm
        · exact hgt
        · exact hfirst m hm

theorem ascending_orderMembers : Ascending (orderMembers ms) := by
  have hfold : ∀ ordered, Ascending ordered →
      Ascending (ms.foldl (fun ordered m => insertMember m.1 m.2 ordered) ordered) := by
    induction ms with
    | nil => exact fun ordered h => h
    | cons m ms ih => exact fun ordered h => ih _ h.insertMember
  exact hfold [] List.Pairwise.nil

theorem Ascending.count_le_one (h : Ascending ms) (name : String) : (ms.map Prod.fst).count name ≤ 1 := by
  have hnodup : (ms.map Prod.fst).Nodup := List.pairwise_map.2 (h.imp fun hlt => ne_of_lt hlt)
  exact List.nodup_iff_count_le_one.1 hnodup name

/-- No name comes twice in an object in order. -/
theorem Ascending.namedOnce (h : Ascending ms) (names : List String) : NamedOnce names ms :=
  fun name _ => h.count_le_one name

/-- The members of an object in order ascend. -/
theorem ascending_of_ordered (h : v.ordered = .object ms) : Ascending ms := by
  cases v with
  | object ms' =>
    cases h
    exact ascending_orderMembers
  | null => cases h
  | bool b => cases h
  | number n => cases h
  | string s => cases h
  | array items => cases h

/-- What stands in an object in order is in order. -/
theorem exists_ordered_of_lookup {w : Value} (h : v.ordered = .object ms) (hk : ms.lookup k = some w) :
    ∃ u : Value, w = u.ordered := by
  cases v with
  | object ms' =>
    cases h
    rw [orderedMembers_eq_map, lookup_orderMembers] at hk
    obtain ⟨m, -, hm⟩ := List.mem_map.1 (List.mem_reverse.1 (mem_of_lookup hk))
    exact ⟨m.2, (congrArg Prod.snd hm).symm⟩
  | null => cases h
  | bool b => cases h
  | number n => cases h
  | string s => cases h
  | array items => cases h

/-! ## Values in order -/

/-- A value as a reader holds it: at every level the names of an object ascend. -/
inductive Value.InOrder : Value → Prop where
  | null : Value.InOrder .null
  | bool (b : Bool) : Value.InOrder (.bool b)
  | number (n : Number) : Value.InOrder (.number n)
  | string (s : String) : Value.InOrder (.string s)
  | array {items : List Value} (hitems : ∀ v ∈ items, v.InOrder) : Value.InOrder (.array items)
  | object {ms : List (String × Value)} (hnames : Ascending ms) (hmembers : ∀ m ∈ ms, m.2.InOrder) :
      Value.InOrder (.object ms)

/-- A member goes behind those whose names come before its own. -/
theorem insertMember_of_forall_lt (h : ∀ m ∈ ms, m.1 < name) :
    insertMember name v ms = ms ++ [(name, v)] := by
  induction ms with
  | nil => rfl
  | cons m ms ih =>
    obtain ⟨hfirst, hrest⟩ := List.forall_mem_cons.1 h
    unfold insertMember
    rw [if_neg (ne_of_gt hfirst), if_neg (lt_asymm hfirst), ih hrest, List.cons_append]

/-- Members that ascend are in order. -/
theorem orderMembers_of_ascending (h : Ascending ms) : orderMembers ms = ms := by
  have hfold : ∀ before, Ascending (before ++ ms) →
      ms.foldl (fun ordered m => insertMember m.1 m.2 ordered) before = before ++ ms := by
    clear h
    induction ms with
    | nil => exact fun before _ => (List.append_nil before).symm
    | cons m ms ih =>
      intro before h
      have hbefore : ∀ m' ∈ before, m'.1 < m.1 := fun m' hm' =>
        (List.pairwise_append.1 h).2.2 m' hm' m List.mem_cons_self
      rw [List.append_cons] at h
      rw [List.foldl_cons, insertMember_of_forall_lt hbefore, ih _ h, ← List.append_cons]
  exact hfold [] h

theorem mem_orderMembers {m : String × Value} (h : m ∈ orderMembers ms) : m ∈ ms := by
  have hfold : ∀ ordered, m ∈ ms.foldl (fun ordered m => insertMember m.1 m.2 ordered) ordered →
      m ∈ ordered ∨ m ∈ ms := by
    clear h
    induction ms with
    | nil => exact fun ordered h => .inl h
    | cons m' ms ih =>
      intro ordered h
      rcases ih _ h with hordered | hms
      · rcases mem_insertMember hordered with rfl | hmem
        · exact .inr List.mem_cons_self
        · exact .inl hmem
      · exact .inr (List.mem_cons_of_mem _ hms)
  rcases hfold [] h with hnil | hms
  · cases hnil
  · exact hms

/-- A value in order stays as it is. -/
theorem Value.InOrder.ordered_eq (h : v.InOrder) : v.ordered = v := by
  induction h with
  | null => rfl
  | bool b => rfl
  | number n => rfl
  | string s => rfl
  | array _ ih => rw [Value.ordered, orderedItems_eq_map, List.map_congr_left ih, List.map_id']
  | @object ms hnames _ ih =>
    have hmembers : ms.map (fun m => (m.1, m.2.ordered)) = ms.map id :=
      List.map_congr_left fun m hm => Prod.ext rfl (ih m hm)
    rw [Value.ordered, orderedMembers_eq_map, hmembers, List.map_id, orderMembers_of_ascending hnames]

mutual

/-- Whatever is put in order is in order. -/
theorem inOrder_ordered (v : Value) : v.ordered.InOrder := by
  match v with
  | .null => exact .null
  | .bool b => exact .bool b
  | .number n => exact .number n
  | .string s => exact .string s
  | .array items => exact .array (inOrder_orderedItems items)
  | .object ms =>
    exact .object ascending_orderMembers fun m hm => inOrder_orderedMembers ms m (mem_orderMembers hm)

theorem inOrder_orderedItems (items : List Value) : ∀ v ∈ orderedItems items, v.InOrder := by
  match items with
  | [] => exact List.forall_mem_nil _
  | v :: vs => exact List.forall_mem_cons.2 ⟨inOrder_ordered v, inOrder_orderedItems vs⟩

theorem inOrder_orderedMembers (ms : List (String × Value)) : ∀ m ∈ orderedMembers ms, m.2.InOrder := by
  match ms with
  | [] => exact List.forall_mem_nil _
  | (name, v) :: rest => exact List.forall_mem_cons.2 ⟨inOrder_ordered v, inOrder_orderedMembers rest⟩

end

end BoxOffice.Json
