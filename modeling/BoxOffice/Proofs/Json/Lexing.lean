import BoxOffice.Proofs.Json.Roundtrip

/-!
# What is cut into tokens

A text in which a careful reader meets no bad token is spelled by its tokens: what is read as a numeral or a
string is one. With `tokens_of_spelling` it follows that a text is cut into the tokens of a value exactly if
it spells them (`tokens_eq_iff`).
-/

namespace BoxOffice.Json

open BoxOffice.Text BoxOffice.Text.Utf8 BoxOffice.Number

/-! ## Numerals -/

section Numerals

variable {p : NumberParts} {n : Number} {negative : Bool} {cs rest : List Symbol}

theorem spanDigits_eq {ds : List Char} (h : spanDigits cs = (ds, rest)) :
    cs = ds.map some ++ rest ∧ ∀ c ∈ ds, isDigit c = true := by
  fun_induction spanDigits cs generalizing ds with
  | case1 c cs hc ds' rest' hspan ih =>
    obtain ⟨rfl, rfl⟩ := Prod.mk.inj h
    obtain ⟨rfl, hds⟩ := ih hspan
    exact ⟨rfl, List.forall_mem_cons.2 ⟨hc, hds⟩⟩
  | case2 c cs hc =>
    obtain ⟨rfl, rfl⟩ := Prod.mk.inj h
    exact ⟨rfl, List.forall_mem_nil _⟩
  | case3 cs hcs =>
    obtain ⟨rfl, rfl⟩ := Prod.mk.inj h
    exact ⟨rfl, List.forall_mem_nil _⟩

theorem exists_of_exponentDigits (h : exponentDigits p negative cs = (.number (some n), rest)) :
    ∃ ds, Digits ds ∧ cs = ds.map some ++ rest ∧ (p.withExponent negative ds).number? = some n := by
  unfold exponentDigits at h
  cases hspan : spanDigits cs with
  | mk ds rest' =>
    rw [hspan] at h
    obtain ⟨hcs, hds⟩ := spanDigits_eq hspan
    cases ds with
    | nil => cases rest' <;> cases h
    | cons d ds =>
      obtain ⟨hnumber, rfl⟩ := Prod.mk.inj h
      exact ⟨d :: ds, ⟨List.cons_ne_nil d ds, hds⟩, hcs, Token.number.inj hnumber⟩

theorem exists_of_numberEnd (h : numberEnd p cs = (.number (some n), rest)) :
    ∃ q exponent, ExponentPart p q exponent ∧ cs = exponent.map some ++ rest ∧ q.number? = some n := by
  have hletter : ∀ letter cs', (letter = 'e' ∨ letter = 'E') →
      exponentToken p cs' = (.number (some n), rest) →
      ∃ q exponent, ExponentPart p q exponent ∧ some letter :: cs' = exponent.map some ++ rest ∧
        q.number? = some n := by
    intro letter cs' hletter htoken
    obtain ⟨negative, sign, cs'', hsign, rfl, hdigits⟩ := exponentToken_eq p cs'
    obtain ⟨ds, hds, rfl, hnumber⟩ := exists_of_exponentDigits (hdigits.symm.trans htoken)
    refine ⟨_, _, .digits hletter hsign hds, ?_, hnumber⟩
    rw [List.map_cons, List.map_append, List.cons_append, List.append_assoc]
  unfold numberEnd at h
  split at h
  · exact hletter 'e' _ (.inl rfl) h
  · exact hletter 'E' _ (.inr rfl) h
  · obtain ⟨hnumber, rfl⟩ := Prod.mk.inj h
    exact ⟨p, [], .none, rfl, Token.number.inj hnumber⟩

theorem exists_of_numberTail (h : numberTail p cs = (.number (some n), rest)) :
    ∃ q r fraction exponent, FractionPart p q fraction ∧ ExponentPart q r exponent ∧
      cs = fraction.map some ++ (exponent.map some ++ rest) ∧ r.number? = some n := by
  unfold numberTail at h
  split at h
  · next cs =>
    cases hspan : spanDigits cs with
    | mk ds rest' =>
      rw [hspan] at h
      obtain ⟨rfl, hds⟩ := spanDigits_eq hspan
      cases ds with
      | nil => cases rest' <;> cases h
      | cons d ds =>
        obtain ⟨r, exponent, hexponent, rfl, hnumber⟩ := exists_of_numberEnd h
        exact ⟨_, r, _, exponent, .digits ⟨List.cons_ne_nil d ds, hds⟩, hexponent, rfl, hnumber⟩
  · obtain ⟨r, exponent, hexponent, rfl, hnumber⟩ := exists_of_numberEnd h
    exact ⟨p, r, [], exponent, .none, hexponent, rfl, hnumber⟩

/-- What is read as a number is a numeral of it. -/
theorem exists_of_numberToken (h : numberToken negative cs = (.number (some n), rest)) :
    ∃ p text, Numeral p (minusSign negative ++ text) ∧ cs = text.map some ++ rest ∧
      p.number? = some n := by
  unfold numberToken at h
  cases hspan : spanDigits cs with
  | mk ds rest' =>
    rw [hspan] at h
    obtain ⟨rfl, hds⟩ := spanDigits_eq hspan
    have hnumeral : ∀ ds, Digits ds → (ds.head? = some '0' → ds = ['0']) →
        numberTail { negative := negative, whole := ds } rest' = (.number (some n), rest) →
        ∃ p text, Numeral p (minusSign negative ++ text) ∧
          ds.map some ++ rest' = text.map some ++ rest ∧ p.number? = some n := by
      intro ds hds hzero htail
      obtain ⟨q, r, fraction, exponent, hfraction, hexponent, rfl, hnumber⟩ := exists_of_numberTail htail
      refine ⟨r, ds ++ (fraction ++ exponent), .mk hds hzero hfraction hexponent, ?_, hnumber⟩
      simp only [List.map_append, List.append_assoc]
    split at h
    · cases h
    · cases h
    · next heq =>
      obtain ⟨rfl, rfl⟩ := Prod.mk.inj heq
      exact hnumeral ['0'] ⟨List.cons_ne_nil _ _, hds⟩ (fun _ => rfl) h
    · cases h
    · next hne _ hzero heq =>
      obtain ⟨rfl, rfl⟩ := Prod.mk.inj heq
      refine hnumeral ds ⟨hne, hds⟩ ?_ h
      intro hhead
      obtain ⟨tail, htail⟩ := List.head?_eq_some_iff.1 hhead
      exact (hzero tail htail).elim

/-- What is read where a number starts. -/
inductive Token.Numeric : Token → Prop where
  | number (n : Option Number) : Token.Numeric (.number n)
  | broken (careful skipping : Fault) : Token.Numeric (.broken careful skipping)

theorem numeric_exponentToken (p : NumberParts) (cs : List Symbol) : (exponentToken p cs).1.Numeric := by
  unfold exponentToken
  split
  split
  · exact .broken _ _
  · exact .broken _ _
  · exact .number _

theorem numeric_numberEnd (p : NumberParts) (cs : List Symbol) : (numberEnd p cs).1.Numeric := by
  unfold numberEnd
  split
  · exact numeric_exponentToken p _
  · exact numeric_exponentToken p _
  · exact .number _

theorem numeric_numberTail (p : NumberParts) (cs : List Symbol) : (numberTail p cs).1.Numeric := by
  unfold numberTail
  split
  · split
    · exact .broken _ _
    · exact .broken _ _
    · exact numeric_numberEnd _ _
  · exact numeric_numberEnd p _

theorem numeric_numberToken (negative : Bool) (cs : List Symbol) :
    (numberToken negative cs).1.Numeric := by
  unfold numberToken
  split
  · exact .broken _ _
  · exact .broken _ _
  · exact numeric_numberTail _ _
  · exact .broken _ _
  · exact numeric_numberTail _ _

end Numerals

/-! ## Strings -/

/-- What stands behind the first half of a pair, if one waits for its second. -/
inductive StringRest : Option Nat → List Char → List Char → Prop where
  | start {text s : List Char} (hbody : StringBody text s) : StringRest none text s
  | half {high low : Nat} {a b c d : Char} {text s : List Char}
      (hn : hexQuad? (some a) (some b) (some c) (some d) = some low) (hlow : isLowSurrogate low = true)
      (hbody : StringBody text s) :
      StringRest (some high) ('\\' :: 'u' :: a :: b :: c :: d :: text) (pairChar high low :: s)

/-- A state from which a string is read: no fault was met, what was read before is in order, and the symbols
up to the quote denote the rest of the string. -/
structure StringReads (state : StringState) (cs : List Symbol) (s : String) (rest : List Symbol) : Prop where
  fault : state.fault = none
  spelled : ∃ before text chars : List Char, state.before = before.map some ∧
    StringRest state.high text chars ∧ cs = text.map some ++ some '"' :: rest ∧
    s = String.ofList (before.reverse ++ chars)

theorem eq_map_some_of_mapM_id {α : Type} {as : List (Option α)} {bs : List α}
    (h : as.mapM id = some bs) : as = bs.map some := by
  induction as generalizing bs with
  | nil =>
    cases h
    rfl
  | cons a as ih =>
    rw [List.mapM_cons] at h
    obtain ⟨b, hb, hmore⟩ := Option.bind_eq_some_iff.1 h
    obtain ⟨bs', hbs, hcons⟩ := Option.bind_eq_some_iff.1 hmore
    obtain rfl : a = some b := hb
    obtain rfl := Option.some.inj hcons
    rw [ih hbs, List.map_cons]

namespace StringReads

variable {state : StringState} {cs rest : List Symbol} {s : String}

/-- The last character that was read belongs to the string, and the body goes on behind it. -/
theorem of_cons {before : List Symbol} {c : Char}
    (h : StringReads ⟨some c :: before, none, none⟩ cs s rest) :
    ∃ before' text chars : List Char, before = before'.map some ∧ StringBody text chars ∧
      cs = text.map some ++ some '"' :: rest ∧ s = String.ofList (before'.reverse ++ c :: chars) := by
  obtain ⟨-, before', text, chars, hbefore, hrest, hcs, hs⟩ := h
  cases hrest with
  | start hbody =>
    obtain ⟨c', before'', rfl, hc, hbefore'⟩ := List.map_eq_cons_iff.1 hbefore.symm
    obtain rfl := Option.some.inj hc
    refine ⟨before'', text, chars, hbefore'.symm, hbody, hcs, ?_⟩
    rw [hs, List.reverse_cons, List.append_assoc, List.singleton_append]

/-- The state before a character that stands for itself or comes from a short escape. -/
theorem of_push {c : Char} {piece : List Char}
    (hpiece : ∀ text chars, StringBody text chars → StringBody (piece ++ text) (c :: chars))
    (h : StringReads (state.push (some c)) cs s rest) :
    StringReads state (piece.map some ++ cs) s rest := by
  obtain ⟨before, high, fault⟩ := state
  have hfault := h.fault
  cases high with
  | some high => cases fault <;> cases hfault
  | none =>
    obtain rfl : fault = none := hfault
    obtain ⟨before', text, chars, rfl, hbody, rfl, rfl⟩ := of_cons h
    refine ⟨rfl, before', piece ++ text, c :: chars, rfl, .start (hpiece _ _ hbody), ?_, rfl⟩
    rw [List.map_append, List.append_assoc]

/-- A byte that belongs to no character is never read. -/
theorem not_push_none (h : StringReads (state.push none) cs s rest) : False := by
  obtain ⟨-, before, text, chars, hbefore, -⟩ := h
  cases before with
  | nil => cases hbefore
  | cons c before => cases (List.cons.inj hbefore).1

/-- The state before a code unit: the second half of a pair that waits, the first half of one, or a
character. -/
theorem of_pushUnit {a b c d : Char} {n : Nat}
    (hn : hexQuad? (some a) (some b) (some c) (some d) = some n)
    (h : StringReads (state.pushUnit n) cs s rest) :
    StringReads state (some '\\' :: some 'u' :: some a :: some b :: some c :: some d :: cs) s rest := by
  obtain ⟨before, high, fault⟩ := state
  have hfault := h.fault
  unfold StringState.pushUnit at h hfault
  cases high with
  | some high =>
    dsimp only at h hfault
    by_cases hlow : isLowSurrogate n = true
    · rw [if_pos hlow] at h hfault
      obtain rfl : fault = none := hfault
      obtain ⟨before', text, chars, rfl, hbody, rfl, rfl⟩ := of_cons h
      exact ⟨rfl, before', _, _, rfl, .half hn hlow hbody, rfl, rfl⟩
    · rw [if_neg hlow] at hfault
      cases fault <;> cases hfault
  | none =>
    dsimp only at h hfault
    by_cases hlow : isLowSurrogate n = true
    · rw [if_pos hlow] at hfault
      cases fault <;> cases hfault
    · rw [if_neg hlow] at h hfault
      by_cases hhigh : isHighSurrogate n = true
      · rw [if_pos hhigh] at h hfault
        obtain rfl : fault = none := hfault
        obtain ⟨-, before', text, chars, rfl, hrest, rfl, rfl⟩ := h
        cases hrest with
        | half hn' hlow' hbody =>
          exact ⟨rfl, before', _, _, rfl, .start (.pair hn hhigh hn' hlow' hbody), rfl, rfl⟩
      · rw [if_neg hhigh] at h hfault
        obtain rfl : fault = none := hfault
        obtain ⟨before', text, chars, rfl, hbody, rfl, rfl⟩ := of_cons h
        rw [Bool.not_eq_true] at hlow hhigh
        exact ⟨rfl, before', _, _, rfl, .start (.unit hn hhigh hlow hbody), rfl, rfl⟩

/-- The state before the quote. -/
theorem of_finish (h : state.finish = .string (.ok s)) : StringReads state (some '"' :: rest) s rest := by
  obtain ⟨before, high, fault⟩ := state
  cases high with
  | some high => cases fault <;> cases h
  | none =>
    cases fault with
    | some f => cases h
    | none =>
      simp only [StringState.finish, StringState.settle] at h
      split at h
      · next cs hcs =>
        have hbefore : before = cs.reverse.map some := by
          rw [List.map_reverse, ← eq_map_some_of_mapM_id hcs, List.reverse_reverse]
        refine ⟨rfl, cs.reverse, [], [], hbefore, .start .nil, rfl, ?_⟩
        cases h
        rw [List.append_nil, List.reverse_reverse]
      · cases h

end StringReads

theorem exists_of_hexQuad? {a b c d : Symbol} {n : Nat} (h : hexQuad? a b c d = some n) :
    ∃ a' b' c' d', a = some a' ∧ b = some b' ∧ c = some c' ∧ d = some d' := by
  unfold hexQuad? at h
  split at h
  · exact ⟨_, _, _, _, rfl, rfl, rfl, rfl⟩
  · cases h

/-- What is read as a string is the body of it, up to the quote. -/
theorem stringReads_of_stringToken {state : StringState} {cs rest : List Symbol} {s : String}
    (h : stringToken state cs = (.string (.ok s), rest)) : StringReads state cs s rest := by
  fun_induction stringToken state cs with
  | case2 state cs =>
    obtain ⟨hfinish, rfl⟩ := Prod.mk.inj h
    exact .of_finish hfinish
  | case4 state a b c d cs n hn ih =>
    obtain ⟨a, b, c, d, rfl, rfl, rfl, rfl⟩ := exists_of_hexQuad? hn
    exact (ih h).of_pushUnit hn
  | case7 state e cs _ _ c hc ih =>
    exact @StringReads.of_push _ _ _ _ _ ['\\', e] (fun _ _ => .escape hc) (ih h)
  | case11 state c cs hquote hend _ _ hescape hbroken hcontrol ih =>
    have hbackslash : c ≠ '\\' := by
      cases cs with
      | nil => exact hend rfl
      | cons next cs =>
        cases next with
        | none => exact hbroken cs rfl
        | some e => exact hescape e cs rfl
    exact @StringReads.of_push _ _ _ _ _ [c]
      (fun _ _ => .plain hquote hbackslash (Nat.le_of_not_lt hcontrol)) (ih h)
  | case12 state cs ih => exact (ih h).not_push_none.elim
  | case1 | case3 | case5 | case6 | case8 | case9 | case10 => cases h

/-- What is read where a string starts. -/
inductive Token.Textual : Token → Prop where
  | string (s : Except Fault String) : Token.Textual (.string s)
  | brokenString (careful skipping : Fault) : Token.Textual (.brokenString careful skipping)

theorem textual_stringToken (state : StringState) (cs : List Symbol) :
    (stringToken state cs).1.Textual := by
  fun_induction stringToken state cs with
  | case2 state cs =>
    unfold StringState.finish
    dsimp only
    split
    · exact .string _
    · split
      · exact .string _
      · exact .string _
  | case4 | case7 | case11 | case12 => assumption
  | case1 | case3 | case5 | case6 | case8 | case9 | case10 => exact .brokenString _ _

/-! ## Words -/

/-- The tokens in which a careful reader meets no fault. -/
def Token.Sound : Token → Prop
  | .number none => False
  | .string (.error _) => False
  | .brokenString _ _ => False
  | .broken _ _ => False
  | _ => True

theorem eq_of_wordToken {t t' : Token} {text : List Char} {cs rest : List Symbol}
    (h : wordToken t text cs = (t', rest)) (hsound : t'.Sound) : t' = t ∧ cs = text.map some ++ rest := by
  fun_induction wordToken t text cs with
  | case1 =>
    obtain ⟨rfl, rfl⟩ := Prod.mk.inj h
    exact ⟨rfl, rfl⟩
  | case2 =>
    obtain ⟨rfl, -⟩ := Prod.mk.inj h
    exact hsound.elim
  | case3 c text rest' ih =>
    obtain ⟨rfl, rfl⟩ := ih h
    exact ⟨rfl, rfl⟩
  | case4 =>
    obtain ⟨rfl, -⟩ := Prod.mk.inj h
    exact hsound.elim

section Words

variable {t : Token} {cs rest : List Symbol}

theorem exists_word_of_wordToken {t' : Token} {c : Char} {text : List Char}
    (hfixed : t'.fixedText? = some (c :: text)) (h : wordToken t' text cs = (t, rest)) (hsound : t.Sound) :
    ∃ word, Word t word ∧ some c :: cs = word.map some ++ rest := by
  obtain ⟨rfl, rfl⟩ := eq_of_wordToken h hsound
  exact ⟨c :: text, .fixed hfixed, rfl⟩

theorem exists_word_of_numberToken {negative : Bool} (h : numberToken negative cs = (t, rest))
    (hsound : t.Sound) : ∃ text, Word t (minusSign negative ++ text) ∧ cs = text.map some ++ rest := by
  have hnumeric := numeric_numberToken negative cs
  rw [h] at hnumeric
  cases hnumeric with
  | broken careful skipping => exact hsound.elim
  | number n =>
    cases n with
    | none => exact hsound.elim
    | some n =>
      obtain ⟨p, text, hnumeral, hcs, hn⟩ := exists_of_numberToken h
      exact ⟨text, .number hnumeral hn, hcs⟩

theorem exists_word_of_stringToken (h : stringToken {} cs = (t, rest)) (hsound : t.Sound) :
    ∃ word, Word t word ∧ some '"' :: cs = word.map some ++ rest := by
  have htextual := textual_stringToken {} cs
  rw [h] at htextual
  cases htextual with
  | brokenString careful skipping => exact hsound.elim
  | string s =>
    cases s with
    | error f => exact hsound.elim
    | ok s =>
      obtain ⟨-, before, text, chars, hbefore, hrest, rfl, rfl⟩ := stringReads_of_stringToken h
      obtain rfl := List.map_eq_nil_iff.1 hbefore.symm
      cases hrest with
      | start hbody =>
        refine ⟨_, .string hbody, ?_⟩
        rw [List.map_cons, List.map_append, List.cons_append, List.append_assoc]
        rfl

/-- What is read as a token is a word of it. -/
theorem exists_word_of_tokenAt {s : Symbol} (h : tokenAt s cs = (t, rest)) (hsound : t.Sound) :
    ∃ word, Word t word ∧ s :: cs = word.map some ++ rest := by
  have hmark : ∀ {c : Char} {t' : Token}, t'.fixedText? = some [c] → (t', cs) = (t, rest) →
      ∃ word, Word t word ∧ some c :: cs = word.map some ++ rest := by
    rintro c t' hfixed ⟨⟩
    exact ⟨[c], .fixed hfixed, rfl⟩
  unfold tokenAt at h
  split at h
  · exact hmark rfl h
  · exact hmark rfl h
  · exact hmark rfl h
  · exact hmark rfl h
  · exact hmark rfl h
  · exact hmark rfl h
  · exact exists_word_of_stringToken h hsound
  · obtain ⟨text, hword, rfl⟩ := exists_word_of_numberToken h hsound
    exact ⟨_, hword, rfl⟩
  · exact exists_word_of_wordToken rfl h hsound
  · exact exists_word_of_wordToken rfl h hsound
  · exact exists_word_of_wordToken rfl h hsound
  · split at h
    · obtain ⟨text, hword, htext⟩ := exists_word_of_numberToken h hsound
      exact ⟨_, hword, htext⟩
    · obtain ⟨rfl, -⟩ := Prod.mk.inj h
      exact hsound.elim
  · obtain ⟨rfl, -⟩ := Prod.mk.inj h
    exact hsound.elim

end Words

/-- A text in which no fault is met consists of the tokens into which it is cut. -/
theorem exists_spelling_of_sound {cs : List Symbol} (hsound : ∀ t ∈ tokens cs, t.Sound) :
    ∃ text : List Char, cs = text.map some ∧ Spelling text (tokens cs) := by
  fun_induction tokens cs with
  | case1 => exact ⟨[], rfl, .nil⟩
  | case2 s rest hgap ih =>
    obtain ⟨text, rfl, hspelling⟩ := ih hsound
    cases s with
    | none => cases hgap
    | some c => exact ⟨c :: text, rfl, .gap hgap hspelling⟩
  | case3 s rest hgap ih =>
    obtain ⟨hfirst, hrest⟩ := List.forall_mem_cons.1 hsound
    obtain ⟨text, htext, hspelling⟩ := ih hrest
    have htoken : tokenAt s rest = ((tokenAt s rest).1, (tokenAt s rest).2) := rfl
    obtain ⟨word, hword, hcs⟩ := exists_word_of_tokenAt htoken hfirst
    refine ⟨word ++ text, ?_, .word hword hspelling⟩
    rw [hcs, htext, List.map_append]

/-! ## The tokens of a value -/

mutual

/-- A value has no bad token. -/
theorem sound_tokens (v : Value) : ∀ t ∈ v.tokens, t.Sound := by
  match v with
  | .null => exact List.forall_mem_singleton.2 trivial
  | .bool b => exact List.forall_mem_singleton.2 trivial
  | .number n => exact List.forall_mem_singleton.2 trivial
  | .string s => exact List.forall_mem_singleton.2 trivial
  | .array items =>
    refine List.forall_mem_append.2 ⟨List.forall_mem_cons.2 ⟨trivial, sound_itemTokens items⟩, ?_⟩
    exact List.forall_mem_singleton.2 trivial
  | .object members =>
    refine List.forall_mem_append.2 ⟨List.forall_mem_cons.2 ⟨trivial, sound_memberTokens members⟩, ?_⟩
    exact List.forall_mem_singleton.2 trivial

theorem sound_itemTokens (items : List Value) : ∀ t ∈ itemTokens items, t.Sound := by
  match items with
  | [] => exact List.forall_mem_nil _
  | [v] => exact sound_tokens v
  | v :: w :: rest =>
    refine List.forall_mem_append.2 ⟨sound_tokens v, ?_⟩
    exact List.forall_mem_cons.2 ⟨trivial, sound_itemTokens (w :: rest)⟩

theorem sound_memberTokens (members : List (String × Value)) : ∀ t ∈ memberTokens members, t.Sound := by
  match members with
  | [] => exact List.forall_mem_nil _
  | [(name, v)] =>
    exact List.forall_mem_cons.2 ⟨trivial, List.forall_mem_cons.2 ⟨trivial, sound_tokens v⟩⟩
  | (name, v) :: m :: rest =>
    refine List.forall_mem_append.2 ⟨?_, ?_⟩
    · exact List.forall_mem_cons.2 ⟨trivial, List.forall_mem_cons.2 ⟨trivial, sound_tokens v⟩⟩
    · exact List.forall_mem_cons.2 ⟨trivial, sound_memberTokens (m :: rest)⟩

end

/-- What may follow a value: nothing, or a mark that may follow a number, and what is apart behind it. -/
structure Following (ts : List Token) : Prop where
  ends : ∀ t ∈ ts.head?, t.Ends
  apart : Apart ts

theorem Apart.cons {t : Token} {ts : List Token} (ht : ∀ n, t ≠ .number n) (h : Apart ts) :
    Apart (t :: ts) :=
  List.isChain_cons.2 ⟨fun _ _ ⟨n, hn⟩ => absurd hn (ht n), h⟩

theorem following_nil : Following [] := ⟨by rintro _ ⟨⟩, List.isChain_nil⟩

theorem following_cons {t : Token} {ts : List Token} (ht : t.Ends) (h : Apart ts) :
    Following (t :: ts) := by
  refine ⟨?_, h.cons ?_⟩
  · rintro _ ⟨⟩
    exact ht
  · rintro n rfl
    rcases ht with ht | ht | ht <;> cases ht

mutual

theorem apart_tokens (v : Value) {ts : List Token} (h : Following ts) : Apart (v.tokens ++ ts) := by
  match v with
  | .null => exact h.apart.cons (by rintro n ⟨⟩)
  | .bool b => exact h.apart.cons (by rintro n ⟨⟩)
  | .number n => exact List.isChain_cons.2 ⟨fun t ht _ => h.ends t ht, h.apart⟩
  | .string s => exact h.apart.cons (by rintro n ⟨⟩)
  | .array items =>
    rw [Value.tokens, List.append_assoc]
    have hclose : Following (.closeBracket :: ts) := following_cons (.inr (.inl rfl)) h.apart
    exact (apart_itemTokens items hclose).cons (by rintro n ⟨⟩)
  | .object members =>
    rw [Value.tokens, List.append_assoc]
    have hclose : Following (.closeBrace :: ts) := following_cons (.inr (.inr rfl)) h.apart
    exact (apart_memberTokens members hclose).cons (by rintro n ⟨⟩)

theorem apart_itemTokens (items : List Value) {ts : List Token} (h : Following ts) :
    Apart (itemTokens items ++ ts) := by
  match items with
  | [] => exact h.apart
  | [v] => exact apart_tokens v h
  | v :: w :: rest =>
    rw [itemTokens, List.append_assoc]
    exact apart_tokens v (following_cons (.inl rfl) (apart_itemTokens (w :: rest) h))

theorem apart_memberTokens (members : List (String × Value)) {ts : List Token} (h : Following ts) :
    Apart (memberTokens members ++ ts) := by
  match members with
  | [] => exact h.apart
  | [(name, v)] => exact ((apart_tokens v h).cons (by rintro n ⟨⟩)).cons (by rintro n ⟨⟩)
  | (name, v) :: m :: rest =>
    rw [memberTokens, List.append_assoc]
    have hrest := apart_tokens v (following_cons (.inl rfl) (apart_memberTokens (m :: rest) h))
    exact (hrest.cons (by rintro n ⟨⟩)).cons (by rintro n ⟨⟩)

end

/-- A text is cut into the tokens of a value exactly if it spells them. -/
theorem tokens_eq_iff {cs : List Symbol} {v : Value} :
    tokens cs = v.tokens ↔ ∃ text : List Char, cs = text.map some ∧ Spelling text v.tokens := by
  constructor
  · intro h
    have hsound := sound_tokens v
    rw [← h] at hsound ⊢
    exact exists_spelling_of_sound hsound
  · rintro ⟨text, rfl, hspelling⟩
    have hapart := apart_tokens v following_nil
    rw [List.append_nil] at hapart
    exact tokens_of_spelling hspelling hapart

end BoxOffice.Json
