import BoxOffice.Proofs.Json.Plain
import Mathlib.Data.List.Nodup

/-!
# Fields of an object without faults

Reading the fields of an object finds, under the name of each field, the member of that name. An object in
which a field comes twice is refused, so that the first member of a name is the only one.

1. `lookup_gatherMembers`: what is found under a name.
2. `exists_gathered_iff`: the fields of an object are found if none comes twice, each that is needed is there,
   and each that is there holds what it has to.
3. `get_eq_ok_iff` and `getD_eq_ok_iff`: what is read under a name.
-/

namespace BoxOffice

open BoxOffice.Json

/-! ## Members -/

theorem ofFault_ok_bind {α β : Type} (a : α) (f : α → Decoded β) : (ofFault (.ok a) >>= f) = f a :=
  rfl

theorem gatherMembers_cons_field {fields : List Field} {other : Node → Decoded Unit}
    {found : Fields} {name : String} {n : Node} {rest : List Member} {f : Field}
    (hf : fields.find? (·.name == name) = some f) :
    gatherMembers fields other found ((.ok name, n) :: rest) =
      if (found.lookup name).isSome then .error (.duplicateField name)
      else f.check n >>= fun _ => gatherMembers fields other (found ++ [(name, n)]) rest := by
  rw [gatherMembers, ofFault_ok_bind]
  simp only [hf]

theorem gatherMembers_cons_other {fields : List Field} {other : Node → Decoded Unit}
    {found : Fields} {name : String} {n : Node} {rest : List Member}
    (hf : fields.find? (·.name == name) = none) :
    gatherMembers fields other found ((.ok name, n) :: rest) =
      other n >>= fun _ => gatherMembers fields other found rest := by
  rw [gatherMembers, ofFault_ok_bind]
  simp only [hf]

section Members

variable {node : Value → Node} {fields : List Field} {other : Node → Decoded Unit} {found found' : Fields}
  {ms : List (String × Value)}

/-- What is found under the name of a field is the member of that name. -/
theorem lookup_gatherMembers {f : Field} (hf : f ∈ fields)
    (h : gatherMembers fields other found (namedNodes node ms) = .ok found') :
    found'.lookup f.name = (found.lookup f.name).or ((ms.lookup f.name).map node) := by
  induction ms generalizing found with
  | nil =>
    cases h
    simp
  | cons m ms ih =>
    obtain ⟨name, v⟩ := m
    rw [namedNodes_cons] at h
    cases hfind : fields.find? (·.name == name) with
    | none =>
      -- The member is no field, so its name is another one.
      rw [gatherMembers_cons_other hfind, bind_eq_ok_iff] at h
      obtain ⟨_, -, h⟩ := h
      have hne : f.name ≠ name := by simpa using List.find?_eq_none.1 hfind f hf
      rw [ih h, List.lookup_cons, beq_false_of_ne hne]
    | some g =>
      rw [gatherMembers_cons_field hfind] at h
      split at h
      · cases h
      next hnew =>
        obtain ⟨_, -, h⟩ := bind_eq_ok_iff.1 h
        rw [ih h, List.lookup_append, List.lookup_cons]
        by_cases hname : f.name = name
        · subst hname
          rw [Option.not_isSome_iff_eq_none.1 hnew]
          simp
        · rw [List.lookup_cons, beq_false_of_ne hname]
          simp

theorem lookup_gathered {f : Field} (hf : f ∈ fields)
    (h : gatherMembers fields other [] (namedNodes node ms) = .ok found) :
    found.lookup f.name = (ms.lookup f.name).map node := by
  rw [lookup_gatherMembers hf h, List.lookup_nil, Option.none_or]

/-! ## Objects whose fields are found -/

/-- The field does not come twice, what was found of it included, and each member of its name holds what it
has to. -/
structure Field.Welcomes (node : Value → Node) (found : Fields) (ms : List (String × Value)) (f : Field) :
    Prop where
  once : (found.lookup f.name).toList.length + (ms.map Prod.fst).count f.name ≤ 1
  holds : ∀ v, (f.name, v) ∈ ms → f.check (node v) = .ok ()

/-- A member of another name makes no difference to a field. -/
theorem Field.welcomes_cons_other {f : Field} {name : String} {v : Value} (hname : f.name ≠ name) :
    f.Welcomes node found ((name, v) :: ms) ↔ f.Welcomes node found ms := by
  constructor
  · rintro ⟨honce, hholds⟩
    rw [List.map_cons, List.count_cons_of_ne (Ne.symm hname)] at honce
    exact ⟨honce, fun w hw => hholds w (List.mem_cons_of_mem _ hw)⟩
  · rintro ⟨honce, hholds⟩
    refine ⟨?_, fun w hw => ?_⟩
    · rw [List.map_cons, List.count_cons_of_ne (Ne.symm hname)]
      exact honce
    · rcases List.mem_cons.1 hw with hpair | hw
      · exact absurd (congrArg Prod.fst hpair) hname
      · exact hholds w hw

/-- A member of the name of a field is the first, and it holds what it has to. -/
theorem Field.welcomes_cons_self {f : Field} {v : Value} :
    f.Welcomes node found ((f.name, v) :: ms) ↔
      found.lookup f.name = none ∧ f.check (node v) = .ok () ∧
        f.Welcomes node (found ++ [(f.name, node v)]) ms := by
  have hlookup : found.lookup f.name = none →
      (found ++ [(f.name, node v)]).lookup f.name = some (node v) := by
    intro hnone
    rw [List.lookup_append, hnone, Option.none_or, List.lookup_cons, beq_self_eq_true]
  constructor
  · rintro ⟨honce, hholds⟩
    rw [List.map_cons, List.count_cons_self] at honce
    have hnone : found.lookup f.name = none := by
      cases hfound : found.lookup f.name with
      | none => rfl
      | some n =>
        rw [hfound, Option.toList_some, List.length_singleton] at honce
        omega
    refine ⟨hnone, hholds v List.mem_cons_self, ?_, fun w hw => hholds w (List.mem_cons_of_mem _ hw)⟩
    rw [hlookup hnone, Option.toList_some, List.length_singleton]
    omega
  · rintro ⟨hnone, hcheck, honce, hholds⟩
    rw [hlookup hnone, Option.toList_some, List.length_singleton] at honce
    have hcount : (ms.map Prod.fst).count f.name = 0 := by omega
    refine ⟨?_, fun w hw => ?_⟩
    · rw [List.map_cons, List.count_cons_self, hnone, hcount]
      exact Nat.le_refl 1
    · rcases List.mem_cons.1 hw with hpair | hw
      · cases hpair
        exact hcheck
      · exact hholds w hw

theorem Field.welcomes_append_other {f : Field} {name : String} {n : Node} (hname : f.name ≠ name) :
    f.Welcomes node (found ++ [(name, n)]) ms ↔ f.Welcomes node found ms := by
  have hlookup : (found ++ [(name, n)]).lookup f.name = found.lookup f.name := by
    rw [List.lookup_append, List.lookup_cons, beq_false_of_ne hname]
    exact Option.or_none
  constructor <;> rintro ⟨honce, hholds⟩
  · exact ⟨hlookup ▸ honce, hholds⟩
  · exact ⟨hlookup.symm ▸ honce, hholds⟩

theorem Field.eq_of_name_eq (hdistinct : (fields.map Field.name).Nodup) {f g : Field} (hf : f ∈ fields)
    (hg : g ∈ fields) (h : f.name = g.name) : f = g :=
  List.inj_on_of_nodup_map hdistinct hf hg h

/-- The members of an object are gathered if they are welcome to every field. -/
theorem exists_gatherMembers_iff (hdistinct : (fields.map Field.name).Nodup)
    (hother : ∀ v, other (node v) = .ok ()) :
    (∃ found', gatherMembers fields other found (namedNodes node ms) = .ok found') ↔
      ∀ f ∈ fields, f.Welcomes node found ms := by
  induction ms generalizing found with
  | nil =>
    refine ⟨fun _ f _ => ⟨?_, nofun⟩, fun _ => ⟨found, rfl⟩⟩
    cases found.lookup f.name <;> simp
  | cons m ms ih =>
    obtain ⟨name, v⟩ := m
    rw [namedNodes_cons]
    cases hfind : fields.find? (·.name == name) with
    | none =>
      have hne : ∀ f ∈ fields, f.name ≠ name := by simpa using List.find?_eq_none.1 hfind
      rw [gatherMembers_cons_other hfind, hother v]
      exact ih.trans (forall₂_congr fun f hf => (Field.welcomes_cons_other (hne f hf)).symm)
    | some g =>
      have hg : g ∈ fields := List.mem_of_find?_eq_some hfind
      obtain rfl : g.name = name := by simpa using List.find?_some hfind
      rw [gatherMembers_cons_field hfind]
      -- The member is one of `g`; to the other fields it is as if it were not there.
      have hrest : ∀ f ∈ fields, f ≠ g →
          (f.Welcomes node found ((g.name, v) :: ms) ↔ f.Welcomes node (found ++ [(g.name, node v)]) ms) := by
        intro f hf hfg
        have hne : f.name ≠ g.name := fun h => hfg (Field.eq_of_name_eq hdistinct hf hg h)
        rw [Field.welcomes_cons_other hne, Field.welcomes_append_other hne]
      constructor
      · rintro ⟨found', h⟩
        split at h
        · cases h
        next hnew =>
          obtain ⟨⟨⟩, hcheck, h⟩ := bind_eq_ok_iff.1 h
          have hmore := ih.1 ⟨found', h⟩
          intro f hf
          by_cases hfg : f = g
          · subst hfg
            exact Field.welcomes_cons_self.2 ⟨Option.not_isSome_iff_eq_none.1 hnew, hcheck, hmore f hf⟩
          · exact (hrest f hf hfg).2 (hmore f hf)
      · intro h
        obtain ⟨hnone, hcheck, hself⟩ := Field.welcomes_cons_self.1 (h g hg)
        have hmore : ∀ f ∈ fields, f.Welcomes node (found ++ [(g.name, node v)]) ms := by
          intro f hf
          by_cases hfg : f = g
          · subst hfg
            exact hself
          · exact (hrest f hf hfg).1 (h f hf)
        obtain ⟨found', hfound⟩ := ih.2 hmore
        exact ⟨found', by rw [hnone, if_neg (by simp), hcheck]; exact hfound⟩

/-- No member has a name of the list that another one has as well. -/
def NamedOnce (names : List String) (ms : List (String × Value)) : Prop :=
  ∀ name ∈ names, (ms.map Prod.fst).count name ≤ 1

theorem lookup_map {β : Type} (f : Value → β) (ms : List (String × Value)) (name : String) :
    List.lookup name (ms.map fun m => (m.1, f m.2)) = (ms.lookup name).map f := by
  induction ms with
  | nil => rfl
  | cons m ms ih =>
    rw [List.map_cons, List.lookup_cons, List.lookup_cons, ih]
    cases name == m.1 <;> rfl

theorem mem_of_lookup {name : String} {v : Value} (h : ms.lookup name = some v) : (name, v) ∈ ms := by
  induction ms with
  | nil => cases h
  | cons m ms ih =>
    obtain ⟨name', v'⟩ := m
    rw [List.lookup_cons] at h
    split at h
    · next hname =>
      cases h
      obtain rfl := eq_of_beq hname
      exact List.mem_cons_self
    · exact List.mem_cons_of_mem _ (ih h)

/-- A member whose name comes once is the one that is looked up. -/
theorem lookup_of_mem {name : String} {v : Value} (honce : (ms.map Prod.fst).count name ≤ 1)
    (h : (name, v) ∈ ms) : ms.lookup name = some v := by
  induction ms with
  | nil => cases h
  | cons m ms ih =>
    obtain ⟨name', v'⟩ := m
    rw [List.map_cons] at honce
    rw [List.lookup_cons]
    by_cases hname : name = name'
    · subst hname
      rw [List.count_cons_self] at honce
      rw [beq_self_eq_true]
      rcases List.mem_cons.1 h with hpair | hmem
      · cases hpair
        rfl
      · have hpos : 0 < (ms.map Prod.fst).count name := List.count_pos_iff.2 (List.mem_map_of_mem hmem)
        omega
    · rw [List.count_cons_of_ne (Ne.symm hname)] at honce
      rw [beq_false_of_ne hname]
      rcases List.mem_cons.1 h with hpair | hmem
      · exact absurd (congrArg Prod.fst hpair) hname
      · exact ih honce hmem

/-- What may stand under the name of a field: nothing, if it is not needed, or what it has to hold. -/
def Field.Admits (node : Value → Node) (f : Field) : Option Value → Prop
  | some v => f.check (node v) = .ok ()
  | none => f.required = false

theorem Field.admits_needed_iff {α : Type} {name : String} {decode : Node → Decoded α} {o : Option Value} :
    (Field.needed name decode).Admits node o ↔ ∃ v a, o = some v ∧ decode (node v) = .ok a := by
  cases o <;> simp [Field.needed, Field.Admits, map_eq_ok_iff]

theorem Field.admits_optional_iff {α : Type} {name : String} {decode : Node → Decoded α} {o : Option Value} :
    (Field.optional name decode).Admits node o ↔ ∀ v, o = some v → ∃ a, decode (node v) = .ok a := by
  cases o <;> simp [Field.optional, Field.Admits, map_eq_ok_iff]

theorem checkPresent_eq_ok_iff : found.checkPresent fields = .ok () ↔
    ∀ f ∈ fields, found.lookup f.name = none → f.required = false := by
  induction fields with
  | nil => simp [Fields.checkPresent]
  | cons f fs ih =>
    rw [Fields.checkPresent, List.forall_mem_cons, ← ih]
    cases found.lookup f.name <;> cases f.required <;> simp

/-- The fields of an object are found if none comes twice and each admits what stands under its name. -/
theorem exists_gathered_iff (hdistinct : (fields.map Field.name).Nodup)
    (hother : ∀ v, other (node v) = .ok ()) :
    (∃ found, gatherMembers fields other [] (namedNodes node ms) = .ok found ∧
        found.checkPresent fields = .ok ()) ↔
      NamedOnce (fields.map Field.name) ms ∧ ∀ f ∈ fields, f.Admits node (ms.lookup f.name) := by
  have hnone {f : Field} : (([] : Fields).lookup f.name).toList.length = 0 := rfl
  constructor
  · rintro ⟨found, hfound, hpresent⟩
    have hwelcomes := (exists_gatherMembers_iff hdistinct hother).1 ⟨found, hfound⟩
    refine ⟨fun name hname => ?_, fun f hf => ?_⟩
    · obtain ⟨f, hf, rfl⟩ := List.mem_map.1 hname
      have honce := (hwelcomes f hf).once
      rwa [hnone, Nat.zero_add] at honce
    · cases hv : ms.lookup f.name with
      | none =>
        have habsent : found.lookup f.name = none := by rw [lookup_gathered hf hfound, hv, Option.map_none]
        exact checkPresent_eq_ok_iff.1 hpresent f hf habsent
      | some v => exact (hwelcomes f hf).holds v (mem_of_lookup hv)
  · rintro ⟨honce, hadmits⟩
    have hwelcomes : ∀ f ∈ fields, f.Welcomes node [] ms := by
      intro f hf
      have hcount := honce f.name (List.mem_map_of_mem hf)
      refine ⟨by rwa [hnone, Nat.zero_add], fun v hv => ?_⟩
      have h := hadmits f hf
      rwa [lookup_of_mem hcount hv] at h
    obtain ⟨found, hfound⟩ := (exists_gatherMembers_iff hdistinct hother).2 hwelcomes
    refine ⟨found, hfound, checkPresent_eq_ok_iff.2 fun f hf habsent => ?_⟩
    have h := hadmits f hf
    rw [lookup_gathered hf hfound, Option.map_eq_none_iff] at habsent
    rwa [habsent] at h

/-! ## Fields by name -/

section Named

variable {α : Type} {name : String} {decode : Node → Decoded α} {a : α}
  (hlookup : found.lookup name = (ms.lookup name).map node)

include hlookup

/-- A field that was read has a member, and the member decodes to what was read. -/
theorem get_eq_ok_iff :
    found.get name decode = .ok a ↔ ∃ v, ms.lookup name = some v ∧ decode (node v) = .ok a := by
  unfold Fields.get
  rw [hlookup]
  cases ms.lookup name <;> simp

/-- A field that may be missing has its default then. -/
theorem getD_eq_ok_iff {default : α} :
    found.getD name decode default = .ok a ↔
      ms.lookup name = none ∧ default = a ∨ ∃ v, ms.lookup name = some v ∧ decode (node v) = .ok a := by
  unfold Fields.getD
  rw [hlookup]
  cases ms.lookup name <;> simp

theorem Field.admits_of_get (h : found.get name decode = .ok a) :
    (Field.needed name decode).Admits node (ms.lookup name) := by
  obtain ⟨v, hv, ha⟩ := (get_eq_ok_iff hlookup).1 h
  exact Field.admits_needed_iff.2 ⟨v, a, hv, ha⟩

theorem Field.admits_of_getD {default : α} (h : found.getD name decode default = .ok a) :
    (Field.optional name decode).Admits node (ms.lookup name) := by
  refine Field.admits_optional_iff.2 fun v hv => ?_
  rcases (getD_eq_ok_iff hlookup).1 h with ⟨hnone, -⟩ | ⟨w, hw, ha⟩
  · exact nomatch hnone.symm.trans hv
  · cases hw.symm.trans hv
    exact ⟨a, ha⟩

end Named

end Members

/-- A field that was read of an object in memory has a member. -/
theorem exists_member_of_get {α : Type} {fields : List Field} {other : Node → Decoded Unit}
    {found : Fields} {ms : List (String × Value)}
    (hfound : gatherMembers fields other [] (nodesOfMembers ms) = .ok found) (f : Field)
    (hf : f ∈ fields) {decode : Node → Decoded α} {a : α} (h : found.get f.name decode = .ok a) :
    ∃ v, ms.lookup f.name = some v ∧ decode (.ofValue v) = .ok a := by
  rw [nodesOfMembers_eq] at hfound
  exact (get_eq_ok_iff (lookup_gathered hf hfound)).1 h

/-! ## Single values in memory -/

theorem Json.Value.string?_eq_some_iff {v : Value} {s : String} : v.string? = some s ↔ v = .string s := by
  cases v <;> simp [Value.string?]

namespace Json.Node

theorem textAs_ofValue_eq_ok_iff {wanted : Wanted} {v : Value} {s : String} :
    (ofValue v).textAs wanted = .ok s ↔ v.string? = some s :=
  plainReading_ofValue.textAs_eq_ok_iff.trans Value.string?_eq_some_iff.symm

theorem int64_ofValue_eq_ok_iff {v : Value} {i : Int64} :
    (ofValue v).int64 = .ok i ↔ v.int64? = some i := plainReading_ofValue.int64_eq_ok_iff

theorem id_ofValue_eq_ok_iff {kind : IdKind} {v : Value} {a : Id kind} :
    (ofValue v).id kind = .ok a ↔ ∃ s, v.string? = some s ∧ Id.parse kind s = .ok a := by
  simp only [Value.string?_eq_some_iff]
  exact plainReading_ofValue.id_eq_ok_iff

end Json.Node

end BoxOffice
