import BoxOffice.Proofs.Json.Lexing
import BoxOffice.Proofs.Json.Order
import BoxOffice.Proofs.Text.Utf8

/-!
# What a reader accepts

Bytes are read as a value exactly if they are a `JsonText`: UTF-8, the tokens of some value with blanks
between them, and no bracket nested too deep.

1. A fault stays in whatever is read around it.
2. While a reader waits, the tokens read so far are accounted for by the brackets that are open and by what
   was read inside them (`Wait.Accounts`). Each step keeps this (`Wait.Accounts.step`), so in the end the
   tokens are those of the value that is found, if one is found (`Wait.Accounts.run`).
3. With the tokens of a text and the bytes of a character the value of bytes follows
   (`Value.ofBytes_eq_ok_iff`).
-/

namespace BoxOffice.Json

open BoxOffice.Text.Utf8

/-! ## What is found in a node -/

/-- The name and the value of a member. -/
def memberValue (m : Member) : Except Fault (String × Value) := do
  let name ← m.1
  let v ← m.2.value
  return (name, v)

theorem memberValue_eq_ok_iff {m : Member} {w : String × Value} :
    memberValue m = .ok w ↔ m.1 = .ok w.1 ∧ m.2.value = .ok w.2 := by
  unfold memberValue
  simp only [bind_eq_ok_iff]
  constructor
  · rintro ⟨name, hname, v, hv, ⟨⟩⟩
    exact ⟨hname, hv⟩
  · rintro ⟨hname, hv⟩
    exact ⟨w.1, hname, w.2, hv, rfl⟩

theorem valuesOfItems_eq_mapM (items : List Node) : valuesOfItems items = items.mapM Node.value := by
  induction items with
  | nil => rfl
  | cons n ns ih =>
    rw [valuesOfItems, ih, mapM_cons_eq]
    rfl

theorem valuesOfMembers_eq_mapM (members : List Member) :
    valuesOfMembers members = members.mapM memberValue := by
  induction members with
  | nil => rfl
  | cons m ms ih =>
    obtain ⟨name, n⟩ := m
    rw [valuesOfMembers, ih, mapM_cons_eq, memberValue]
    cases name with
    | error f => rfl
    | ok name =>
      cases n.value with
      | error f => rfl
      | ok v => rfl

theorem exists_of_array {items : List Node} {stop : ArrayEnd} {w : Value}
    (h : (Node.array items stop).value = .ok w) :
    ∃ vs, List.Forall₂ (fun n v => n.value = .ok v) items vs ∧ stop.careful = .ok () ∧ w = .array vs := by
  rw [Node.value, bind_eq_ok_iff] at h
  obtain ⟨vs, hvs, h⟩ := h
  obtain ⟨⟨⟩, hstop, h⟩ := bind_eq_ok_iff.1 h
  rw [valuesOfItems_eq_mapM, mapM_eq_ok_iff] at hvs
  exact ⟨vs, hvs, hstop, (Except.ok.inj h).symm⟩

theorem exists_of_object {members : List Member} {stop : ObjectEnd} {w : Value}
    (h : (Node.object members stop).value = .ok w) :
    ∃ ms, List.Forall₂ (fun m v => memberValue m = .ok v) members ms ∧ stop.careful = .ok () ∧
      w = .object (orderMembers ms) := by
  rw [Node.value, bind_eq_ok_iff] at h
  obtain ⟨ms, hms, h⟩ := h
  obtain ⟨⟨⟩, hstop, h⟩ := bind_eq_ok_iff.1 h
  rw [valuesOfMembers_eq_mapM, mapM_eq_ok_iff] at hms
  exact ⟨ms, hms, hstop, (Except.ok.inj h).symm⟩

/-! ## Faults -/

/-- No value is found in a node. -/
def Node.Faulty (n : Node) : Prop := ∀ w, n.value ≠ .ok w

theorem faulty_bad (careful skipping : Fault) : (Node.bad careful skipping).Faulty := by
  rintro w ⟨⟩

theorem Node.Faulty.enclosed {n : Node} (h : n.Faulty) (depth : Nat) : (Node.enclosed depth n).Faulty := by
  unfold Node.enclosed
  split
  · rintro w ⟨⟩
  · exact h

theorem faulty_array {items : List Node} {stop : ArrayEnd} {f : Fault} (h : stop.careful = .error f) :
    (Node.array items stop).Faulty := by
  intro w hw
  obtain ⟨-, -, hstop, -⟩ := exists_of_array hw
  cases h.symm.trans hstop

theorem faulty_object {members : List Member} {careful skipping : Fault} :
    (Node.object members (.faulty careful skipping)).Faulty := by
  intro w hw
  obtain ⟨-, -, hstop, -⟩ := exists_of_object hw
  cases hstop

theorem faulty_ofItems {items : List Node} {stop : ArrayEnd} {outer : List Frame} {f : Fault}
    (h : stop.careful = .error f) : (Node.ofItems items stop outer).Faulty :=
  (faulty_array h).enclosed outer.length

theorem faulty_ofMembers {members : List Member} {careful skipping : Fault} {outer : List Frame} :
    (Node.ofMembers members (.faulty careful skipping) outer).Faulty :=
  faulty_object.enclosed outer.length

/-- A fault stays, however many brackets are closed around it. -/
theorem Node.Faulty.giveUp {n : Node} (h : n.Faulty) (outer : List Frame) : (n.giveUp outer).Faulty := by
  induction outer generalizing n with
  | nil => exact h
  | cons frame outer ih =>
    cases frame with
    | array items =>
      refine ih (Node.Faulty.enclosed ?_ outer.length)
      intro w hw
      obtain ⟨vs, hvs, -⟩ := exists_of_array hw
      obtain ⟨v, -, hv⟩ := exists_of_forall₂ hvs (List.mem_reverse.2 List.mem_cons_self)
      exact h v hv
    | object members name =>
      refine ih (Node.Faulty.enclosed ?_ outer.length)
      intro w hw
      obtain ⟨ms, hms, -⟩ := exists_of_object hw
      obtain ⟨m, -, hm⟩ := exists_of_forall₂ hms (List.mem_reverse.2 List.mem_cons_self)
      exact h m.2 (memberValue_eq_ok_iff.1 hm).2

/-! ## Tokens that account for what is read -/

/-- What stands between commas: how it is read, what it is the text of, with which tokens, how it comes out,
and how deep its brackets are nested. -/
structure Part (α β γ : Type) where
  read : α → Except Fault β
  tokens : γ → List Token
  result : γ → β
  depth : γ → Nat

/-- The items of an array. -/
def Part.item : Part Node Value Value := ⟨Node.value, Value.tokens, Value.ordered, Value.depth⟩

/-- The members of an object. -/
def Part.member : Part Member (String × Value) (String × Value) where
  read := memberValue
  tokens m := .string (.ok m.1) :: .colon :: m.2.tokens
  result m := (m.1, m.2.ordered)
  depth m := m.2.depth

section Part

variable {α β γ : Type}

/-- If something is found inside so many open brackets, the tokens are those of it, and no more brackets are
nested in it than may still be open. -/
def Part.Accounts (part : Part α β γ) (depth : Nat) (a : α) (ts : List Token) : Prop :=
  ∀ b, part.read a = .ok b → ∃ c, ts = part.tokens c ∧ b = part.result c ∧
    part.depth c ≤ greatestDepth - depth

/-- The tokens of what was read, the last first, with a comma behind each. -/
inductive Part.Listed (part : Part α β γ) (depth : Nat) : List α → List Token → Prop where
  | nil : part.Listed depth [] []
  | cons {a : α} {as : List α} {ts body : List Token} (hbefore : part.Listed depth as ts)
      (hlast : part.Accounts depth a body) : part.Listed depth (a :: as) (ts ++ (body ++ [.comma]))

theorem Part.Listed.exists_results {part : Part α β γ} {depth : Nat} {as : List α} {ts : List Token}
    {bs : List β} (h : part.Listed depth as ts)
    (hread : List.Forall₂ (fun a b => part.read a = .ok b) as bs) :
    ∃ cs : List γ, ts = cs.reverse.flatMap (fun c => part.tokens c ++ [.comma]) ∧
      bs = cs.map part.result ∧
      ∀ c ∈ cs, part.depth c ≤ greatestDepth - depth := by
  induction h generalizing bs with
  | nil =>
    cases hread
    exact ⟨[], rfl, rfl, List.forall_mem_nil _⟩
  | cons hbefore hlast ih =>
    cases hread with
    | cons hb hbs =>
      obtain ⟨cs, rfl, rfl, hcs⟩ := ih hbs
      obtain ⟨c, rfl, rfl, hc⟩ := hlast _ hb
      refine ⟨c :: cs, ?_, rfl, List.forall_mem_cons.2 ⟨hc, hcs⟩⟩
      rw [List.reverse_cons, List.flatMap_append, List.flatMap_singleton]

/-- What was read when the last of several parts ends. -/
theorem Part.Listed.exists_of_last {part : Part α β γ} {depth : Nat} {as : List α} {a : α}
    {ts body : List Token} {bs : List β} (h : part.Listed depth as ts) (hlast : part.Accounts depth a body)
    (hread : List.Forall₂ (fun a b => part.read a = .ok b) (a :: as).reverse bs) :
    ∃ (cs : List γ) (c : γ),
      ts ++ body = cs.flatMap (fun c => part.tokens c ++ [.comma]) ++ part.tokens c ∧
      bs = (cs ++ [c]).map part.result ∧
      ∀ c' ∈ cs ++ [c], part.depth c' ≤ greatestDepth - depth := by
  have hreversed : List.Forall₂ (fun a b => part.read a = .ok b) (a :: as) bs.reverse := by
    rw [← List.forall₂_reverse_iff, List.reverse_reverse]
    exact hread
  obtain ⟨b, bs', hb, hbs', hbs⟩ := List.forall₂_cons_left_iff.1 hreversed
  obtain ⟨cs, rfl, rfl, hcs⟩ := h.exists_results hbs'
  obtain ⟨c, rfl, rfl, hc⟩ := hlast _ hb
  refine ⟨cs.reverse, c, rfl, ?_, ?_⟩
  · rw [← bs.reverse_reverse, hbs, List.reverse_cons, List.map_append, List.map_reverse]
    rfl
  · intro c' hc'
    rcases List.mem_append.1 hc' with hmem | hmem
    · exact hcs c' (List.mem_reverse.1 hmem)
    · rw [List.mem_singleton.1 hmem]
      exact hc

end Part

theorem itemTokens_concat (items : List Value) (v : Value) :
    itemTokens (items ++ [v]) = items.flatMap (fun v => v.tokens ++ [.comma]) ++ v.tokens := by
  induction items with
  | nil => rfl
  | cons w items ih =>
    have hcons : itemTokens (w :: (items ++ [v])) = w.tokens ++ .comma :: itemTokens (items ++ [v]) := by
      cases items <;> rfl
    rw [List.cons_append, hcons, ih, List.flatMap_cons]
    simp only [List.append_assoc, List.cons_append, List.nil_append]

theorem memberTokens_concat (members : List (String × Value)) (m : String × Value) :
    memberTokens (members ++ [m]) =
      members.flatMap (fun m => Part.member.tokens m ++ [.comma]) ++ Part.member.tokens m := by
  induction members with
  | nil => rfl
  | cons m' members ih =>
    have hcons : memberTokens (m' :: (members ++ [m])) =
        Part.member.tokens m' ++ .comma :: memberTokens (members ++ [m]) := by
      cases members <;> rfl
    rw [List.cons_append, hcons, ih, List.flatMap_cons]
    simp only [List.append_assoc, List.cons_append, List.nil_append]

section Closing

variable {depth : Nat}

/-- No bracket is closed inside too many others. -/
theorem lt_of_enclosed {n : Node} {w : Value} (h : (Node.enclosed depth n).value = .ok w) :
    depth < greatestDepth ∧ n.value = .ok w := by
  unfold Node.enclosed at h
  split at h
  · cases h
  · next hdepth => exact ⟨Nat.lt_of_not_le hdepth, h⟩

theorem accounts_array {items : List Node} {n : Node} {ts body : List Token}
    (hitems : Part.item.Listed (depth + 1) items ts) (hlast : Part.item.Accounts (depth + 1) n body) :
    Part.item.Accounts depth (.enclosed depth (.array (n :: items).reverse .closed))
      (.openBracket :: (ts ++ body) ++ [.closeBracket]) := by
  intro w hw
  obtain ⟨hdepth, hw⟩ := lt_of_enclosed hw
  obtain ⟨vs, hvs, -, rfl⟩ := exists_of_array hw
  obtain ⟨items, v, hts, rfl, hfits⟩ := hitems.exists_of_last hlast hvs
  refine ⟨.array (items ++ [v]), ?_, ?_, ?_⟩
  · rw [hts]
    show _ = Token.openBracket :: itemTokens (items ++ [v]) ++ [.closeBracket]
    rw [itemTokens_concat]
    rfl
  · show _ = Value.array (orderedItems (items ++ [v]))
    rw [orderedItems_eq_map]
    rfl
  · have hle : depthOfItems (items ++ [v]) ≤ greatestDepth - (depth + 1) := depthOfItems_le_iff.2 hfits
    show depthOfItems (items ++ [v]) + 1 ≤ greatestDepth - depth
    omega

theorem accounts_object {members : List Member} {m : Member} {ts body : List Token}
    (hmembers : Part.member.Listed (depth + 1) members ts) (hlast : Part.member.Accounts (depth + 1) m body) :
    Part.item.Accounts depth (.enclosed depth (.object (m :: members).reverse .closed))
      (.openBrace :: (ts ++ body) ++ [.closeBrace]) := by
  intro w hw
  obtain ⟨hdepth, hw⟩ := lt_of_enclosed hw
  obtain ⟨ms, hms, -, rfl⟩ := exists_of_object hw
  obtain ⟨members, m, hts, rfl, hfits⟩ := hmembers.exists_of_last hlast hms
  refine ⟨.object (members ++ [m]), ?_, ?_, ?_⟩
  · rw [hts]
    show _ = Token.openBrace :: memberTokens (members ++ [m]) ++ [.closeBrace]
    rw [memberTokens_concat]
  · show _ = Value.object (orderMembers (orderedMembers (members ++ [m])))
    rw [orderedMembers_eq_map]
    rfl
  · have hle : depthOfMembers (members ++ [m]) ≤ greatestDepth - (depth + 1) :=
      depthOfMembers_le_iff.2 hfits
    show depthOfMembers (members ++ [m]) + 1 ≤ greatestDepth - depth
    omega

end Closing

/-! ## Steps -/

/-- The tokens that were read since the brackets were opened that are still open. -/
inductive Opened : List Frame → List Token → Prop where
  | nil : Opened [] []
  | array {outer : List Frame} {before ts : List Token} {items : List Node} (houter : Opened outer before)
      (hitems : Part.item.Listed (outer.length + 1) items ts) :
      Opened (.array items :: outer) (before ++ .openBracket :: ts)
  | object {outer : List Frame} {before ts : List Token} {members : List Member} {name : Except Fault String}
      (houter : Opened outer before) (hmembers : Part.member.Listed (outer.length + 1) members ts) :
      Opened (.object members name :: outer) (before ++ .openBrace :: (ts ++ [.string name, .colon]))

/-- The tokens that were read when a reader waits. -/
inductive Wait.Accounts : Wait → List Token → Prop where
  | value {outer : List Frame} {before : List Token} (houter : Opened outer before) :
      Wait.Accounts (.value outer) before
  | firstItem {outer : List Frame} {before : List Token} (houter : Opened outer before) :
      Wait.Accounts (.firstItem outer) (before ++ [.openBracket])
  | comma {outer : List Frame} {before ts body : List Token} {items : List Node} {n : Node}
      (houter : Opened outer before) (hitems : Part.item.Listed (outer.length + 1) items ts)
      (hlast : Part.item.Accounts (outer.length + 1) n body) :
      Wait.Accounts (.comma (n :: items) outer) (before ++ .openBracket :: (ts ++ body))
  | nextItem {outer : List Frame} {before ts : List Token} {items : List Node} (houter : Opened outer before)
      (hitems : Part.item.Listed (outer.length + 1) items ts) :
      Wait.Accounts (.nextItem items outer) (before ++ .openBracket :: ts)
  | firstName {outer : List Frame} {before : List Token} (houter : Opened outer before) :
      Wait.Accounts (.firstName outer) (before ++ [.openBrace])
  | memberComma {outer : List Frame} {before ts body : List Token} {members : List Member} {m : Member}
      (houter : Opened outer before) (hmembers : Part.member.Listed (outer.length + 1) members ts)
      (hlast : Part.member.Accounts (outer.length + 1) m body) :
      Wait.Accounts (.memberComma (m :: members) outer) (before ++ .openBrace :: (ts ++ body))
  | nextName {outer : List Frame} {before ts : List Token} {members : List Member} (houter : Opened outer before)
      (hmembers : Part.member.Listed (outer.length + 1) members ts) :
      Wait.Accounts (.nextName members outer) (before ++ .openBrace :: ts)
  | colon {outer : List Frame} {before ts : List Token} {members : List Member} {name : Except Fault String}
      (houter : Opened outer before) (hmembers : Part.member.Listed (outer.length + 1) members ts) :
      Wait.Accounts (.colon members name outer) (before ++ .openBrace :: (ts ++ [.string name]))

/-- The tokens that were read after a step. -/
def Progress.Accounts : Progress → List Token → Prop
  | .wait w, ts => w.Accounts ts
  | .complete n, ts => Part.item.Accounts 0 n ts

section Steps

variable {outer : List Frame} {before : List Token}

theorem accounts_of_faulty {n : Node} (h : n.Faulty) (depth : Nat) (ts : List Token) :
    Part.item.Accounts depth n ts := fun w hw => absurd hw (h w)

theorem accounts_stop {n : Node} (h : n.Faulty) (outer : List Frame) (ts : List Token) :
    (Progress.stop n outer).Accounts ts := accounts_of_faulty (h.giveUp outer) 0 ts

/-- After a value the brackets around it are read on. -/
theorem accounts_ofValue (houter : Opened outer before) {n : Node} {body : List Token}
    (h : Part.item.Accounts outer.length n body) : (Progress.ofValue n outer).Accounts (before ++ body) := by
  cases houter with
  | nil => exact h
  | array houter hitems =>
    rw [List.append_assoc, List.cons_append]
    exact .comma houter hitems h
  | object houter hmembers =>
    next outer before ts members name =>
    have hmember : Part.member.Accounts (outer.length + 1) (name, n) (.string name :: .colon :: body) := by
      intro w hw
      obtain ⟨hname, hn⟩ := memberValue_eq_ok_iff.1 hw
      obtain ⟨v, rfl, hv, hfits⟩ := h w.2 hn
      refine ⟨(w.1, v), ?_, ?_, hfits⟩
      · rw [show name = .ok w.1 from hname]
        rfl
      · rw [show w = (w.1, w.2) from rfl, hv]
        rfl
    have hafter := Wait.Accounts.memberComma houter hmembers hmember
    simp only [List.append_assoc, List.cons_append, List.nil_append]
    exact hafter

/-- A value of one token. -/
theorem accounts_single {v : Value} {n : Node} {depth : Nat} (hn : n.value = .ok v) (hordered : v.ordered = v)
    (hdepth : v.depth = 0) : Part.item.Accounts depth n v.tokens := by
  intro w hw
  obtain rfl := Except.ok.inj (hn.symm.trans hw)
  refine ⟨v, rfl, hordered.symm, ?_⟩
  show v.depth ≤ greatestDepth - depth
  omega

theorem accounts_valueStep (houter : Opened outer before) (t : Token) :
    (valueStep outer t).Accounts (before ++ [t]) := by
  cases t with
  | openBracket => exact .firstItem houter
  | openBrace => exact .firstName houter
  | null => exact accounts_ofValue houter (@accounts_single .null _ _ rfl rfl rfl)
  | bool b => exact accounts_ofValue houter (@accounts_single (.bool b) _ _ rfl rfl rfl)
  | number n =>
    refine accounts_ofValue houter ?_
    cases n with
    | some n => exact @accounts_single (.number n) _ _ rfl rfl rfl
    | none => exact accounts_of_faulty (by rintro w ⟨⟩) _ _
  | string s =>
    refine accounts_ofValue houter ?_
    cases s with
    | ok s => exact @accounts_single (.string s) _ _ rfl rfl rfl
    | error f => exact accounts_of_faulty (by rintro w ⟨⟩) _ _
  | brokenString careful skipping => exact accounts_stop (faulty_bad careful skipping) outer _
  | broken careful skipping => exact accounts_stop (faulty_bad careful skipping) outer _
  | closeBrace => exact accounts_stop (faulty_bad _ _) outer _
  | closeBracket => exact accounts_stop (faulty_bad _ _) outer _
  | comma => exact accounts_stop (faulty_bad _ _) outer _
  | colon => exact accounts_stop (faulty_bad _ _) outer _

theorem accounts_nameStep (houter : Opened outer before) {members : List Member} {ts : List Token}
    (hmembers : Part.member.Listed (outer.length + 1) members ts) (careful skipping : Fault) (t : Token) :
    (nameStep members outer (.faulty careful skipping) t).Accounts (before ++ .openBrace :: (ts ++ [t])) := by
  cases t with
  | string s => exact .colon houter hmembers
  | _ => exact accounts_stop faulty_ofMembers outer _

end Steps

section Close

variable {outer : List Frame} {before ts : List Token}

theorem accounts_item {w : Wait} {items : List Node} (hw : w.AwaitsItem outer items) (houter : Opened outer before)
    (hitems : Part.item.Listed (outer.length + 1) items ts) {t : Token} (ht : t ≠ .closeBracket) :
    (w.step t).Accounts (before ++ .openBracket :: ts ++ [t]) := by
  rw [hw.step ht]
  exact accounts_valueStep (.array houter hitems) t

theorem accounts_name {w : Wait} {members : List Member} (hw : w.AwaitsName outer members)
    (houter : Opened outer before) (hmembers : Part.member.Listed (outer.length + 1) members ts) {t : Token}
    (ht : t ≠ .closeBrace) : (w.step t).Accounts (before ++ .openBrace :: ts ++ [t]) := by
  rw [hw.step ht, List.append_assoc, List.cons_append]
  exact accounts_nameStep houter hmembers _ _ t

theorem accounts_emptyArray {depth : Nat} :
    Part.item.Accounts depth (.enclosed depth (.array [] .closed)) [.openBracket, .closeBracket] := by
  intro w hw
  obtain ⟨hdepth, hw⟩ := lt_of_enclosed hw
  cases hw
  exact ⟨.array [], rfl, rfl, Nat.le_sub_of_add_le' hdepth⟩

theorem accounts_emptyObject {depth : Nat} :
    Part.item.Accounts depth (.enclosed depth (.object [] .closed)) [.openBrace, .closeBrace] := by
  intro w hw
  obtain ⟨hdepth, hw⟩ := lt_of_enclosed hw
  cases hw
  exact ⟨.object [], rfl, rfl, Nat.le_sub_of_add_le' hdepth⟩

end Close

/-- What a step reads is accounted for by its token. -/
theorem Wait.Accounts.step {w : Wait} {before : List Token} (h : w.Accounts before) (t : Token) :
    (w.step t).Accounts (before ++ [t]) := by
  cases h with
  | value houter => exact accounts_valueStep houter t
  | firstItem houter =>
    by_cases ht : t = .closeBracket
    · subst ht
      rw [List.append_assoc]
      exact accounts_ofValue houter accounts_emptyArray
    · exact accounts_item .first houter .nil ht
  | comma houter hitems hlast =>
    rw [List.append_assoc]
    cases t with
    | closeBracket => exact accounts_ofValue houter (accounts_array hitems hlast)
    | comma =>
      have hlisted := Part.Listed.cons hitems hlast
      rw [List.cons_append, List.append_assoc]
      exact .nextItem houter hlisted
    | _ => exact accounts_stop (faulty_ofItems rfl) _ _
  | nextItem houter hitems =>
    by_cases ht : t = .closeBracket
    · subst ht
      exact accounts_stop (faulty_ofItems rfl) _ _
    · exact accounts_item (.next _) houter hitems ht
  | firstName houter =>
    by_cases ht : t = .closeBrace
    · subst ht
      rw [List.append_assoc]
      exact accounts_ofValue houter accounts_emptyObject
    · exact accounts_name .first houter .nil ht
  | memberComma houter hmembers hlast =>
    rw [List.append_assoc]
    cases t with
    | closeBrace => exact accounts_ofValue houter (accounts_object hmembers hlast)
    | comma =>
      have hlisted := Part.Listed.cons hmembers hlast
      rw [List.cons_append, List.append_assoc]
      exact .nextName houter hlisted
    | _ => exact accounts_stop faulty_ofMembers _ _
  | nextName houter hmembers =>
    by_cases ht : t = .closeBrace
    · subst ht
      exact accounts_stop faulty_ofMembers _ _
    · exact accounts_name (.next _) houter hmembers ht
  | @colon outer before ts members name houter hmembers =>
    cases t with
    | colon =>
      have hopened := @Opened.object outer before ts members name houter hmembers
      simp only [List.append_assoc, List.cons_append, List.nil_append]
      exact .value hopened
    | _ => exact accounts_stop (faulty_bad _ _) _ _

/-- A text that ends while a reader waits has a fault. -/
theorem faulty_atEnd (w : Wait) : w.atEnd.Faulty := by
  cases w with
  | value outer => exact (faulty_bad _ _).giveUp outer
  | firstItem outer => exact (faulty_ofItems rfl).giveUp outer
  | comma items outer => exact (faulty_ofItems rfl).giveUp outer
  | nextItem items outer => exact (faulty_ofItems rfl).giveUp outer
  | firstName outer => exact faulty_ofMembers.giveUp outer
  | memberComma members outer => exact faulty_ofMembers.giveUp outer
  | nextName members outer => exact faulty_ofMembers.giveUp outer
  | colon members name outer => exact (faulty_bad _ _).giveUp _

/-- What is read in the end is accounted for by the tokens up to there. -/
theorem Wait.Accounts.run {w : Wait} {before : List Token} (h : w.Accounts before) (ts : List Token) :
    ∃ read, before ++ ts = read ++ (w.run ts).2 ∧ Part.item.Accounts 0 (w.run ts).1 read := by
  induction ts generalizing w before with
  | nil => exact ⟨before, rfl, accounts_of_faulty (faulty_atEnd w) 0 before⟩
  | cons t ts ih =>
    have hstep := h.step t
    rw [Wait.run_cons]
    cases hprogress : w.step t with
    | wait w' =>
      rw [hprogress] at hstep
      obtain ⟨read, hread, haccounts⟩ := ih hstep
      refine ⟨read, ?_, haccounts⟩
      rw [← List.append_cons] at hread
      exact hread
    | complete n =>
      rw [hprogress] at hstep
      exact ⟨before ++ [t], List.append_cons before t ts, hstep⟩

/-! ## Readings -/

/-- A value is found in a text exactly if the tokens of the text are those of a value that does not nest its
brackets too deep. -/
theorem reading_value_eq_ok_iff {cs : List Symbol} {w : Value} :
    (Reading.ofSymbols cs).value = .ok w ↔
      ∃ v : Value, tokens cs = v.tokens ∧ v.depth ≤ greatestDepth ∧ w = v.ordered := by
  constructor
  · intro h
    have hstart : (Wait.value []).Accounts [] := .value .nil
    obtain ⟨read, hread, haccounts⟩ := hstart.run (tokens cs)
    unfold Reading.ofSymbols Reading.value at h
    generalize (Wait.value []).run (tokens cs) = result at h hread haccounts
    obtain ⟨node, rest⟩ := result
    obtain ⟨w', hw, htrailing⟩ := bind_eq_ok_iff.1 h
    obtain ⟨v, rfl, rfl, hdepth⟩ := haccounts w' hw
    -- Nothing is left behind the value.
    cases rest with
    | cons t rest => cases htrailing
    | nil =>
      cases htrailing
      rw [List.nil_append, List.append_nil] at hread
      exact ⟨v, hread, hdepth, rfl⟩
  · rintro ⟨v, htokens, hdepth, rfl⟩
    rw [Reading.ofSymbols_of_tokens htokens hdepth, Reading.value, value_textNode]
    rfl

/-- The bytes are a text of the value: UTF-8, with the tokens of the value and blanks anywhere between them,
and with no more brackets open at once than a reader follows. -/
def JsonText (bytes : List UInt8) (v : Value) : Prop :=
  v.depth ≤ greatestDepth ∧
    ∃ text : List Char, bytes = text.flatMap String.utf8EncodeChar ∧ Spelling text v.tokens

/-- A text of a value is read as the node of the value, and nothing is left over. -/
theorem Reading.ofBytes_of_jsonText {bytes : List UInt8} {v : Value} (h : JsonText bytes v) :
    Reading.ofBytes bytes = ⟨v.textNode, false⟩ := by
  obtain ⟨hdepth, text, hbytes, hspelling⟩ := h
  exact Reading.ofSymbols_of_tokens (tokens_eq_iff.2 ⟨text, symbols_eq_map_some_iff.2 hbytes, hspelling⟩) hdepth

/-- Bytes are read as a value exactly if they are a text of it, and the value comes in order. -/
theorem Value.ofBytes_eq_ok_iff {bytes : List UInt8} {w : Value} :
    Value.ofBytes bytes = .ok w ↔ ∃ v, JsonText bytes v ∧ w = v.ordered := by
  unfold Value.ofBytes Reading.ofBytes
  simp only [reading_value_eq_ok_iff, tokens_eq_iff, symbols_eq_map_some_iff]
  constructor
  · rintro ⟨v, htext, hdepth, rfl⟩
    exact ⟨v, ⟨hdepth, htext⟩, rfl⟩
  · rintro ⟨v, ⟨hdepth, htext⟩, rfl⟩
    exact ⟨v, htext, hdepth, rfl⟩

/-- What is printed of a value without reals is a text of it. -/
theorem jsonText_text {v : Value} (hwhole : v.isWhole = true) (hdepth : v.depth ≤ greatestDepth) :
    JsonText (encode v.text) v := by
  obtain ⟨text, htext, hspelling⟩ := tokens_eq_iff.1 (tokens_chars hwhole)
  obtain rfl : v.chars = text := (List.map_inj_right fun _ _ => Option.some.inj).1 htext
  refine ⟨hdepth, v.chars, ?_, hspelling⟩
  unfold encode Value.text
  rw [String.toList_ofList]

end BoxOffice.Json
