import BoxOffice.Proofs.Json.Plain
import BoxOffice.Proofs.Json.Spelling

/-!
# Printed values are read back

A value without reals, whose brackets are not nested deeper than a reader follows, is read back from its
text; only the members of its objects come in ascending order.

1. The text of a value has the tokens of the value, whatever follows it.
2. A reader that meets the tokens of a value goes on as after the node of it.
3. The value of that node is the value in order.
-/

namespace BoxOffice.Json

open BoxOffice.Text BoxOffice.Text.Utf8

/-! ## Values that are read back -/

mutual

/-- The number of brackets that are nested in a value. -/
def Value.depth : Value → Nat
  | .array items => depthOfItems items + 1
  | .object members => depthOfMembers members + 1
  | _ => 0

/-- The greatest depth of the items. -/
def depthOfItems : List Value → Nat
  | [] => 0
  | v :: vs => max v.depth (depthOfItems vs)

/-- The greatest depth of the members. -/
def depthOfMembers : List (String × Value) → Nat
  | [] => 0
  | (_, v) :: rest => max v.depth (depthOfMembers rest)

end

mutual

/-- Whether every number in a value is whole. -/
def Value.isWhole : Value → Bool
  | .number (.real _) => false
  | .array items => wholeItems items
  | .object members => wholeMembers members
  | _ => true

/-- `Value.isWhole` for all items. -/
def wholeItems : List Value → Bool
  | [] => true
  | v :: vs => v.isWhole && wholeItems vs

/-- `Value.isWhole` for the values of all members. -/
def wholeMembers : List (String × Value) → Bool
  | [] => true
  | (_, v) :: rest => v.isWhole && wholeMembers rest

end

section Items

variable {α : Type} {f : α → Value}

theorem wholeItems_map (h : ∀ a, (f a).isWhole = true) (as : List α) :
    wholeItems (as.map f) = true := by
  induction as with
  | nil => rfl
  | cons a as ih => rw [List.map_cons, wholeItems, h, ih, Bool.and_self]

theorem depthOfItems_le_iff {n : Nat} {items : List Value} :
    depthOfItems items ≤ n ↔ ∀ v ∈ items, v.depth ≤ n := by
  induction items with
  | nil => simp [depthOfItems]
  | cons v vs ih => rw [depthOfItems, Nat.max_le, ih, List.forall_mem_cons]

theorem depthOfMembers_le_iff {n : Nat} {members : List (String × Value)} :
    depthOfMembers members ≤ n ↔ ∀ m ∈ members, m.2.depth ≤ n := by
  induction members with
  | nil => simp [depthOfMembers]
  | cons m ms ih => rw [depthOfMembers, Nat.max_le, ih, List.forall_mem_cons]

theorem depthOfItems_map_le {n : Nat} (h : ∀ a, (f a).depth ≤ n) (as : List α) :
    depthOfItems (as.map f) ≤ n := by
  rw [depthOfItems_le_iff, List.forall_mem_map]
  exact fun a _ => h a

end Items

/-! ## Tokens of a value -/

mutual

/-- The tokens of a value. -/
def Value.tokens : Value → List Token
  | .null => [.null]
  | .bool b => [.bool b]
  | .number n => [.number (some n)]
  | .string s => [.string (.ok s)]
  | .array items => .openBracket :: itemTokens items ++ [.closeBracket]
  | .object members => .openBrace :: memberTokens members ++ [.closeBrace]

/-- The tokens of items, with commas between them. -/
def itemTokens : List Value → List Token
  | [] => []
  | [v] => v.tokens
  | v :: w :: rest => v.tokens ++ .comma :: itemTokens (w :: rest)

/-- The tokens of members, with commas between them. -/
def memberTokens : List (String × Value) → List Token
  | [] => []
  | [(name, v)] => .string (.ok name) :: .colon :: v.tokens
  | (name, v) :: m :: rest => .string (.ok name) :: .colon :: v.tokens ++ .comma :: memberTokens (m :: rest)

end

mutual

/-- The text of a value has the tokens of the value. -/
theorem tokens_valueChars (v : Value) (h : v.isWhole = true) {rest : List Symbol}
    (hrest : NumberEnds rest) : tokens (v.chars.map some ++ rest) = v.tokens ++ tokens rest := by
  match v with
  | .null => exact tokens_cons rfl rfl
  | .bool true => exact tokens_cons rfl rfl
  | .bool false => exact tokens_cons rfl rfl
  | .number (.whole n) => exact tokens_intChars hrest n
  | .number (.real _) => exact absurd h Bool.false_ne_true
  | .string s => exact tokens_stringChars s rest
  | .array items =>
    have hends : NumberEnds (some ']' :: rest) := numberEnds_of_mark (.inr (.inl rfl))
    have hitems := tokens_itemChars items h hends
    simp only [Value.chars, Value.tokens, List.map_append, List.map_cons, List.map_nil, List.cons_append,
      List.append_assoc, List.nil_append]
    rw [tokens_mark '[' .openBracket rfl fun _ => rfl, hitems, tokens_mark ']' .closeBracket rfl fun _ => rfl]
  | .object members =>
    have hends : NumberEnds (some '\x7d' :: rest) := numberEnds_of_mark (.inr (.inr rfl))
    have hmembers := tokens_memberChars members h hends
    simp only [Value.chars, Value.tokens, List.map_append, List.map_cons, List.map_nil, List.cons_append,
      List.append_assoc, List.nil_append]
    rw [tokens_mark '\x7b' .openBrace rfl fun _ => rfl, hmembers,
      tokens_mark '\x7d' .closeBrace rfl fun _ => rfl]

theorem tokens_itemChars (items : List Value) (h : wholeItems items = true) {rest : List Symbol}
    (hrest : NumberEnds rest) :
    tokens ((itemChars items).map some ++ rest) = itemTokens items ++ tokens rest := by
  match items with
  | [] => rfl
  | [v] => exact tokens_valueChars v (Bool.and_eq_true_iff.1 h).1 hrest
  | v :: w :: vs =>
    obtain ⟨hv, hvs⟩ := Bool.and_eq_true_iff.1 h
    simp only [itemChars, itemTokens, List.map_append, List.map_cons, List.cons_append, List.append_assoc]
    rw [tokens_valueChars v hv (numberEnds_of_mark (.inl rfl)), tokens_mark ',' .comma rfl fun _ => rfl,
      tokens_itemChars (w :: vs) hvs hrest]

theorem tokens_memberChars (members : List (String × Value)) (h : wholeMembers members = true)
    {rest : List Symbol} (hrest : NumberEnds rest) :
    tokens ((memberChars members).map some ++ rest) = memberTokens members ++ tokens rest := by
  match members with
  | [] => rfl
  | [(name, v)] =>
    simp only [memberChars, memberTokens, List.map_append, List.map_cons, List.cons_append, List.append_assoc]
    rw [tokens_stringChars, tokens_mark ':' .colon rfl fun _ => rfl,
      tokens_valueChars v (Bool.and_eq_true_iff.1 h).1 hrest]
  | (name, v) :: m :: ms =>
    obtain ⟨hv, hvs⟩ := Bool.and_eq_true_iff.1 h
    simp only [memberChars, memberTokens, List.map_append, List.map_cons, List.cons_append, List.append_assoc]
    rw [tokens_stringChars, tokens_mark ':' .colon rfl fun _ => rfl,
      tokens_valueChars v hv (numberEnds_of_mark (.inl rfl)), tokens_mark ',' .comma rfl fun _ => rfl,
      tokens_memberChars (m :: ms) hvs hrest]

end

/-! ## The node of a text -/

mutual

/-- The node that is read from the text of a value. -/
def Value.textNode : Value → Node
  | .null => .null
  | .bool b => .bool b
  | .number n => .number (some n)
  | .string s => .string (.ok s)
  | .array items => .array (textNodesOfItems items) .closed
  | .object members => .object (textNodesOfMembers members) .closed

/-- The nodes of the items of an array. -/
def textNodesOfItems : List Value → List Node
  | [] => []
  | v :: vs => v.textNode :: textNodesOfItems vs

/-- The nodes of the members of an object. -/
def textNodesOfMembers : List (String × Value) → List Member
  | [] => []
  | (name, v) :: rest => (.ok name, v.textNode) :: textNodesOfMembers rest

end

/-- Reads on. -/
def Progress.resume : Progress → List Token → Node × List Token
  | .wait w, ts => w.run ts
  | .complete n, ts => (n, ts)

theorem Wait.run_cons (w : Wait) (t : Token) (ts : List Token) : w.run (t :: ts) = (w.step t).resume ts := by
  rw [Wait.run]
  cases w.step t <;> rfl

/-- A reader that waits for an item, with what was read of the array. -/
inductive Wait.AwaitsItem (outer : List Frame) : List Node → Wait → Prop where
  | first : Wait.AwaitsItem outer [] (.firstItem outer)
  | next (before : List Node) : Wait.AwaitsItem outer before (.nextItem before outer)

/-- A reader that waits for the name of a member, with what was read of the object. -/
inductive Wait.AwaitsName (outer : List Frame) : List Member → Wait → Prop where
  | first : Wait.AwaitsName outer [] (.firstName outer)
  | next (before : List Member) : Wait.AwaitsName outer before (.nextName before outer)

section Waits

variable {w : Wait} {outer : List Frame}

/-- Where an item may stand, a value is read inside the bracket, unless the bracket closes. -/
theorem Wait.AwaitsItem.step {before : List Node} (hw : w.AwaitsItem outer before) {t : Token}
    (ht : t ≠ .closeBracket) : w.step t = valueStep (.array before :: outer) t := by
  cases hw <;> cases t <;> first | rfl | exact absurd rfl ht

theorem Wait.AwaitsItem.run_cons {before : List Node} (hw : w.AwaitsItem outer before) {t : Token}
    (ht : t ≠ .closeBracket) (ts : List Token) :
    w.run (t :: ts) = (Wait.value (.array before :: outer)).run (t :: ts) := by
  rw [Wait.run_cons, Wait.run_cons, hw.step ht]
  rfl

/-- No value starts with a bracket that closes. -/
theorem Wait.AwaitsItem.run_tokens {before : List Node} (hw : w.AwaitsItem outer before) (v : Value)
    (ts : List Token) :
    w.run (v.tokens ++ ts) = (Wait.value (.array before :: outer)).run (v.tokens ++ ts) := by
  have hcons : ∃ t rest, v.tokens = t :: rest ∧ t ≠ .closeBracket := by
    cases v <;> exact ⟨_, _, rfl, nofun⟩
  obtain ⟨t, rest, htokens, ht⟩ := hcons
  rw [htokens]
  exact hw.run_cons ht _

/-- Where a member may stand, its name is read, unless the bracket closes. -/
theorem Wait.AwaitsName.step {before : List Member} (hw : w.AwaitsName outer before) {t : Token}
    (ht : t ≠ .closeBrace) :
    w.step t = nameStep before outer (.faulty .keyNotString .keyNotString) t := by
  cases hw <;> cases t <;> first | rfl | exact absurd rfl ht

theorem Wait.AwaitsName.run_cons_cons {before : List Member} (hw : w.AwaitsName outer before)
    (name : Except Fault String) (ts : List Token) :
    w.run (.string name :: .colon :: ts) = (Wait.value (.object before name :: outer)).run ts := by
  have hcolon : w.run (.string name :: .colon :: ts) =
      (Wait.colon before name outer).run (.colon :: ts) := by
    cases hw <;> exact Wait.run_cons _ _ _
  rw [hcolon]
  exact Wait.run_cons _ _ _

end Waits

section Brackets

variable {outer : List Frame}

theorem enclosed_of_lt (h : outer.length < greatestDepth) (n : Node) : Node.enclosed outer.length n = n :=
  if_neg (Nat.not_le_of_lt h)

theorem ofItems_textNodes (h : outer.length < greatestDepth) (items : List Value) :
    Node.ofItems ((textNodesOfItems items).reverse ++ []) .closed outer = (Value.array items).textNode := by
  unfold Node.ofItems
  rw [enclosed_of_lt h, List.append_nil, List.reverse_reverse]
  rfl

theorem ofMembers_textNodes (h : outer.length < greatestDepth) (members : List (String × Value)) :
    Node.ofMembers ((textNodesOfMembers members).reverse ++ []) .closed outer =
      (Value.object members).textNode := by
  unfold Node.ofMembers
  rw [enclosed_of_lt h, List.append_nil, List.reverse_reverse]
  rfl

theorem run_openBracket (items : List Value) (ts : List Token) :
    (Wait.value outer).run ((Value.array items).tokens ++ ts) =
      (Wait.firstItem outer).run (itemTokens items ++ .closeBracket :: ts) := by
  rw [Value.tokens, List.append_assoc]
  exact Wait.run_cons _ _ _

theorem run_openBrace (members : List (String × Value)) (ts : List Token) :
    (Wait.value outer).run ((Value.object members).tokens ++ ts) =
      (Wait.firstName outer).run (memberTokens members ++ .closeBrace :: ts) := by
  rw [Value.tokens, List.append_assoc]
  exact Wait.run_cons _ _ _

end Brackets

mutual

/-- A reader that meets the tokens of a value goes on as after its node. -/
theorem run_tokens (v : Value) {outer : List Frame} (h : outer.length + v.depth ≤ greatestDepth)
    (ts : List Token) :
    (Wait.value outer).run (v.tokens ++ ts) = (Progress.ofValue v.textNode outer).resume ts := by
  match v with
  | .null => exact Wait.run_cons _ _ _
  | .bool b => exact Wait.run_cons _ _ _
  | .number n => exact Wait.run_cons _ _ _
  | .string s => exact Wait.run_cons _ _ _
  | .array [] =>
    rw [Value.depth] at h
    have hlt : outer.length < greatestDepth := by omega
    rw [run_openBracket, ← ofItems_textNodes hlt]
    exact Wait.run_cons _ _ _
  | .array (v :: vs) =>
    rw [Value.depth] at h
    have hlt : outer.length < greatestDepth := by omega
    rw [run_openBracket, ← ofItems_textNodes hlt]
    have hfirst : Wait.AwaitsItem outer [] _ := .first
    exact run_itemTokens (v :: vs) (List.cons_ne_nil v vs) hfirst (by omega) ts
  | .object [] =>
    rw [Value.depth] at h
    have hlt : outer.length < greatestDepth := by omega
    rw [run_openBrace, ← ofMembers_textNodes hlt]
    exact Wait.run_cons _ _ _
  | .object (m :: ms) =>
    rw [Value.depth] at h
    have hlt : outer.length < greatestDepth := by omega
    rw [run_openBrace, ← ofMembers_textNodes hlt]
    have hfirst : Wait.AwaitsName outer [] _ := .first
    exact run_memberTokens (m :: ms) (List.cons_ne_nil m ms) hfirst (by omega) ts

/-- Items are read up to their bracket. -/
theorem run_itemTokens (items : List Value) (hne : items ≠ []) {w : Wait} {before : List Node}
    {outer : List Frame} (hw : w.AwaitsItem outer before)
    (h : outer.length + 1 + depthOfItems items ≤ greatestDepth) (ts : List Token) :
    w.run (itemTokens items ++ .closeBracket :: ts) =
      (Progress.ofValue
        (.ofItems ((textNodesOfItems items).reverse ++ before) .closed outer) outer).resume ts := by
  match items with
  | [] => exact absurd rfl hne
  | v :: vs =>
    rw [depthOfItems] at h
    have hitem : ∀ ts, w.run (v.tokens ++ ts) = (Wait.comma (v.textNode :: before) outer).run ts := by
      intro ts
      rw [hw.run_tokens]
      exact run_tokens v (by rw [List.length_cons]; omega) ts
    rw [textNodesOfItems, List.reverse_cons, List.append_assoc, List.singleton_append]
    match vs with
    | [] =>
      rw [itemTokens, hitem]
      exact Wait.run_cons _ _ _
    | x :: xs =>
      have hnext : Wait.AwaitsItem outer _ _ := .next (v.textNode :: before)
      have hrest := run_itemTokens (x :: xs) (List.cons_ne_nil x xs) hnext (by omega) ts
      rw [itemTokens, List.append_assoc, hitem, ← hrest]
      exact Wait.run_cons _ _ _

/-- Members are read up to their bracket. -/
theorem run_memberTokens (members : List (String × Value)) (hne : members ≠ []) {w : Wait}
    {before : List Member} {outer : List Frame} (hw : w.AwaitsName outer before)
    (h : outer.length + 1 + depthOfMembers members ≤ greatestDepth) (ts : List Token) :
    w.run (memberTokens members ++ .closeBrace :: ts) =
      (Progress.ofValue
        (.ofMembers ((textNodesOfMembers members).reverse ++ before) .closed outer) outer).resume ts := by
  match members with
  | [] => exact absurd rfl hne
  | (name, v) :: rest =>
    rw [depthOfMembers] at h
    have hmember : ∀ ts, w.run (.string (.ok name) :: .colon :: (v.tokens ++ ts)) =
        (Wait.memberComma ((.ok name, v.textNode) :: before) outer).run ts := by
      intro ts
      rw [hw.run_cons_cons]
      exact run_tokens v (by rw [List.length_cons]; omega) ts
    rw [textNodesOfMembers, List.reverse_cons, List.append_assoc, List.singleton_append]
    match rest with
    | [] =>
      rw [memberTokens, List.cons_append, List.cons_append, hmember]
      exact Wait.run_cons _ _ _
    | m :: ms =>
      have hnext : Wait.AwaitsName outer _ _ := .next ((.ok name, v.textNode) :: before)
      have hrest := run_memberTokens (m :: ms) (List.cons_ne_nil m ms) hnext (by omega) ts
      rw [memberTokens, List.append_assoc, List.cons_append, List.cons_append, hmember, ← hrest]
      exact Wait.run_cons _ _ _

end

/-! ## The value of a text -/

theorem textNodesOfItems_eq_map (items : List Value) : textNodesOfItems items = items.map Value.textNode := by
  induction items with
  | nil => rfl
  | cons v vs ih => rw [textNodesOfItems, ih, List.map_cons]

theorem textNodesOfMembers_eq (ms : List (String × Value)) :
    textNodesOfMembers ms = namedNodes Value.textNode ms := by
  induction ms with
  | nil => rfl
  | cons m ms ih =>
    rw [textNodesOfMembers, ih]
    rfl

/-- The node of a text is plain. -/
theorem plainReading_textNode : PlainReading Value.textNode where
  null := rfl
  bool _ := rfl
  number _ := rfl
  string _ := rfl
  array items := ⟨.closed, .inl rfl, by rw [Value.textNode, textNodesOfItems_eq_map]⟩
  object ms := by rw [Value.textNode, textNodesOfMembers_eq]

/-- The node of a text has the value in order. -/
theorem value_textNode (v : Value) : v.textNode.value = .ok v.ordered := plainReading_textNode.value v

/-- A text with the tokens of a value is read as the node of the value, and nothing is left over. -/
theorem Reading.ofSymbols_of_tokens {cs : List Symbol} {v : Value} (htokens : tokens cs = v.tokens)
    (hdepth : v.depth ≤ greatestDepth) : Reading.ofSymbols cs = ⟨v.textNode, false⟩ := by
  have hfits : ([] : List Frame).length + v.depth ≤ greatestDepth := by
    rw [List.length_nil, Nat.zero_add]
    exact hdepth
  have hrun := run_tokens v hfits []
  rw [List.append_nil] at hrun
  unfold Reading.ofSymbols
  rw [htokens, hrun]
  rfl

/-- The text of a value has the tokens of the value and no others. -/
theorem tokens_chars {v : Value} (hwhole : v.isWhole = true) : tokens (v.chars.map some) = v.tokens := by
  have htokens := tokens_valueChars v hwhole numberEnds_nil
  rw [List.append_nil, tokens, List.append_nil] at htokens
  exact htokens

section Texts

variable {v : Value} (hwhole : v.isWhole = true) (hdepth : v.depth ≤ greatestDepth)

include hwhole hdepth

/-- A text is read as the node of its value, and nothing is left over. -/
theorem Reading.ofText_text : Reading.ofText v.text = ⟨v.textNode, false⟩ := by
  unfold Reading.ofText symbolsOfText Value.text
  rw [String.toList_ofList]
  exact Reading.ofSymbols_of_tokens (tokens_chars hwhole) hdepth

/-- A value is read back from its text, in order. -/
theorem Value.ofText_text : Value.ofText v.text = .ok v.ordered := by
  unfold Value.ofText Reading.value
  rw [Reading.ofText_text hwhole hdepth, value_textNode]
  rfl

end Texts

end BoxOffice.Json
