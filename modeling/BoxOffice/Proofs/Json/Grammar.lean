import BoxOffice.Json.Token
import Mathlib.Data.List.Chain

/-!
# The grammar of tokens

What a numeral, a string and any other token may be written as, said without a reader, and that a text in
the grammar is cut into the tokens of which it consists.

1. `Numeral` and `StringBody` are the texts of numbers and of strings, with what they denote.
2. A token may be written as a `Word` of it, and a `Spelling` of tokens has blanks anywhere between them.
3. Each word is read as one token, whatever follows it; behind a numeral something has to follow that is no
   part of one. So the tokens of a text are those that it spells (`tokens_of_spelling`).
-/

namespace BoxOffice.Json

open BoxOffice.Text BoxOffice.Text.Utf8 BoxOffice.Number

/-! ## Numerals -/

/-- Digits, at least one. -/
def Digits (ds : List Char) : Prop := ds ≠ [] ∧ ∀ c ∈ ds, isDigit c = true

/-- The point with the digits behind it, which may be missing, and the parts of a number without and with
them. -/
inductive FractionPart (p : NumberParts) : NumberParts → List Char → Prop where
  | none : FractionPart p p []
  | digits {ds : List Char} (hds : Digits ds) :
      FractionPart p { p with fraction := ds, plain := false } ('.' :: ds)

/-- The sign of an exponent. -/
inductive ExponentSign : Bool → List Char → Prop where
  | none : ExponentSign false []
  | plus : ExponentSign false ['+']
  | minus : ExponentSign true ['-']

/-- The parts of a number with an exponent. -/
def NumberParts.withExponent (p : NumberParts) (negative : Bool) (ds : List Char) : NumberParts :=
  { p with
    exponent := if negative then -(natOfDigits ds : Int) else natOfDigits ds
    plain := false }

/-- The exponent, which may be missing, and the parts of a number without and with it. -/
inductive ExponentPart (p : NumberParts) : NumberParts → List Char → Prop where
  | none : ExponentPart p p []
  | digits {letter : Char} {negative : Bool} {sign ds : List Char} (hletter : letter = 'e' ∨ letter = 'E')
      (hsign : ExponentSign negative sign) (hds : Digits ds) :
      ExponentPart p (p.withExponent negative ds) (letter :: (sign ++ ds))

/-- The sign of a number. -/
def minusSign (negative : Bool) : List Char := if negative then ['-'] else []

/-- The texts of numbers, with the parts of the number. A zero before the point stands alone. -/
inductive Numeral : NumberParts → List Char → Prop where
  | mk {negative : Bool} {ds fraction exponent : List Char} {p q : NumberParts} (hds : Digits ds)
      (hzero : ds.head? = some '0' → ds = ['0'])
      (hfraction : FractionPart { negative := negative, whole := ds } p fraction)
      (hexponent : ExponentPart p q exponent) :
      Numeral q (minusSign negative ++ (ds ++ (fraction ++ exponent)))

/-! ## Strings -/

/-- What may stand between the quotes of a string, with the characters that it denotes. Two code units may
stand for one character; a surrogate alone stands for none. -/
inductive StringBody : List Char → List Char → Prop where
  | nil : StringBody [] []
  | plain {c : Char} {text s : List Char} (hquote : c ≠ '"') (hbackslash : c ≠ '\\')
      (hcontrol : 0x20 ≤ c.toNat) (hbody : StringBody text s) : StringBody (c :: text) (c :: s)
  | escape {e c : Char} {text s : List Char} (he : escapedChar? e = some c) (hbody : StringBody text s) :
      StringBody ('\\' :: e :: text) (c :: s)
  | unit {a b c d : Char} {n : Nat} {text s : List Char}
      (hn : hexQuad? (some a) (some b) (some c) (some d) = some n) (hhigh : isHighSurrogate n = false)
      (hlow : isLowSurrogate n = false) (hbody : StringBody text s) :
      StringBody ('\\' :: 'u' :: a :: b :: c :: d :: text) (Char.ofNat n :: s)
  | pair {a b c d a' b' c' d' : Char} {high low : Nat} {text s : List Char}
      (hn : hexQuad? (some a) (some b) (some c) (some d) = some high) (hhigh : isHighSurrogate high = true)
      (hn' : hexQuad? (some a') (some b') (some c') (some d') = some low)
      (hlow : isLowSurrogate low = true) (hbody : StringBody text s) :
      StringBody ('\\' :: 'u' :: a :: b :: c :: d :: '\\' :: 'u' :: a' :: b' :: c' :: d' :: text)
        (pairChar high low :: s)

/-! ## Words -/

/-- The text of a token that is always written alike. -/
def Token.fixedText? : Token → Option (List Char)
  | .openBrace => some ['\x7b']
  | .closeBrace => some ['\x7d']
  | .openBracket => some ['[']
  | .closeBracket => some [']']
  | .comma => some [',']
  | .colon => some [':']
  | .null => some ['n', 'u', 'l', 'l']
  | .bool true => some ['t', 'r', 'u', 'e']
  | .bool false => some ['f', 'a', 'l', 's', 'e']
  | _ => none

/-- What a token may be written as. -/
inductive Word : Token → List Char → Prop where
  | fixed {t : Token} {text : List Char} (h : t.fixedText? = some text) : Word t text
  | number {p : NumberParts} {n : Number} {text : List Char} (h : Numeral p text)
      (hn : p.number? = some n) : Word (.number (some n)) text
  | string {text s : List Char} (h : StringBody text s) :
      Word (.string (.ok (String.ofList s))) ('"' :: (text ++ ['"']))

/-- The texts that consist of the given tokens, with blanks anywhere between them. -/
inductive Spelling : List Char → List Token → Prop where
  | nil : Spelling [] []
  | gap {c : Char} {text : List Char} {ts : List Token} (hc : isGap c = true) (hrest : Spelling text ts) :
      Spelling (c :: text) ts
  | word {t : Token} {word text : List Char} {ts : List Token} (hword : Word t word)
      (hrest : Spelling text ts) : Spelling (word ++ text) (t :: ts)

/-- The marks that may follow a number. -/
def Token.Ends (t : Token) : Prop := t = .comma ∨ t = .closeBracket ∨ t = .closeBrace

/-- Every number is followed by a mark, if by anything. -/
def Apart (ts : List Token) : Prop := ts.IsChain fun t next => (∃ n, t = .number n) → next.Ends

/-! ## Texts that start with a token -/

/-- A text that starts with a token. -/
theorem tokens_cons {s : Symbol} {rest rest' : List Symbol} {t : Token} (hgap : s.any isGap = false)
    (ht : tokenAt s rest = (t, rest')) : tokens (s :: rest) = t :: tokens rest' := by
  rw [tokens, hgap, if_neg Bool.false_ne_true, ht]

/-- A text that starts with a token of one character. -/
theorem tokens_mark (c : Char) (t : Token) (hgap : isGap c = false)
    (ht : ∀ rest, tokenAt (some c) rest = (t, rest)) (rest : List Symbol) :
    tokens (some c :: rest) = t :: tokens rest :=
  tokens_cons hgap (ht rest)

theorem tokens_fixed {t : Token} {text : List Char} (h : t.fixedText? = some text) (rest : List Symbol) :
    tokens (text.map some ++ rest) = t :: tokens rest := by
  unfold Token.fixedText? at h
  split at h <;> cases h
  all_goals exact tokens_cons rfl rfl

theorem isGap_of_isDigit {c : Char} (hc : isDigit c = true) : isGap c = false := by
  have hne : ∀ gap, isDigit gap = false → (c == gap) = false := fun gap hgap =>
    beq_eq_false_iff_ne.2 fun h => by rw [h, hgap] at hc; cases hc
  unfold isGap
  rw [hne ' ' (by decide), hne '\n' (by decide), hne '\t' (by decide), hne '\r' (by decide)]
  rfl

/-- No bracket, mark or word starts with a digit. -/
theorem tokenAt_of_isDigit {c : Char} (hc : isDigit c = true) (rest : List Symbol) :
    tokenAt (some c) rest = numberToken false (some c :: rest) := by
  unfold tokenAt
  split
  case h_12 hsome =>
    obtain rfl := Option.some.inj hsome
    rw [if_pos hc]
  case h_13 hnone => cases hnone
  all_goals
    next hsome =>
      obtain rfl := Option.some.inj hsome
      exact absurd hc (by decide)

/-! ## Numerals are read -/

/-- A text that does not go on with a digit. -/
def DigitsEnd (rest : List Symbol) : Prop := ∀ c, rest.head? = some (some c) → isDigit c = false

/-- A text that does not go on with a number. -/
def NumberEnds (rest : List Symbol) : Prop :=
  ∀ c, rest.head? = some (some c) → isDigit c = false ∧ c ≠ '.' ∧ c ≠ 'e' ∧ c ≠ 'E'

theorem numberEnds_nil : NumberEnds [] := by
  intro c hc
  cases hc

/-- No number goes on with any of the marks that may follow a value. -/
theorem numberEnds_of_mark {c : Char} {rest : List Symbol} (hc : c = ',' ∨ c = ']' ∨ c = '\x7d') :
    NumberEnds (some c :: rest) := by
  rintro _ ⟨⟩
  rcases hc with rfl | rfl | rfl <;> decide

theorem NumberEnds.digitsEnd {rest : List Symbol} (h : NumberEnds rest) : DigitsEnd rest :=
  fun c hc => (h c hc).1

section Numerals

variable {p q r : NumberParts} {negative : Bool} {ds sign fraction exponent : List Char}
  {rest : List Symbol}

theorem Digits.exists_cons (h : Digits ds) : ∃ d ds', ds = d :: ds' ∧ isDigit d = true := by
  obtain ⟨d, ds', rfl⟩ := List.exists_cons_of_ne_nil h.1
  exact ⟨d, ds', rfl, h.2 d List.mem_cons_self⟩

theorem spanDigits_append (hds : ∀ c ∈ ds, isDigit c = true) (hrest : DigitsEnd rest) :
    spanDigits (ds.map some ++ rest) = (ds, rest) := by
  induction ds with
  | nil =>
    cases rest with
    | nil => rfl
    | cons s rest =>
      cases s with
      | none => rfl
      | some c => simp [spanDigits, hrest c rfl]
  | cons c ds ih =>
    have hc := hds c List.mem_cons_self
    simp [spanDigits, hc, ih fun c hc => hds c (List.mem_cons_of_mem _ hc)]

/-- Reads the digits of an exponent from behind its sign. -/
def exponentDigits (p : NumberParts) (negative : Bool) (cs : List Symbol) : Token × List Symbol :=
  match spanDigits cs with
  | ([], []) => cutOff
  | ([], _) => noNumber
  | (ds, rest) => (.number (p.withExponent negative ds).number?, rest)

/-- An exponent has a sign, which may be missing, and digits. -/
theorem exponentToken_eq (p : NumberParts) (cs : List Symbol) :
    ∃ negative sign cs', ExponentSign negative sign ∧ cs = sign.map some ++ cs' ∧
      exponentToken p cs = exponentDigits p negative cs' := by
  by_cases hplus : ∃ cs', cs = some '+' :: cs'
  · obtain ⟨cs', rfl⟩ := hplus
    exact ⟨false, ['+'], cs', .plus, rfl, rfl⟩
  · by_cases hminus : ∃ cs', cs = some '-' :: cs'
    · obtain ⟨cs', rfl⟩ := hminus
      exact ⟨true, ['-'], cs', .minus, rfl, rfl⟩
    · refine ⟨false, [], cs, .none, rfl, ?_⟩
      unfold exponentToken
      split
      next heq =>
      split at heq
      · exact absurd ⟨_, rfl⟩ hplus
      · exact absurd ⟨_, rfl⟩ hminus
      · cases heq
        rfl

theorem exponentToken_append (hsign : ExponentSign negative sign) (hds : Digits ds)
    (hrest : DigitsEnd rest) :
    exponentToken p (sign.map some ++ (ds.map some ++ rest)) =
      (.number (p.withExponent negative ds).number?, rest) := by
  have hspan := spanDigits_append hds.2 hrest
  obtain ⟨d, ds', rfl, hd⟩ := hds.exists_cons
  have hdigits : ∀ negative, exponentDigits p negative ((d :: ds').map some ++ rest) =
      (.number (p.withExponent negative (d :: ds')).number?, rest) := by
    intro negative
    unfold exponentDigits
    rw [hspan]
  cases hsign with
  | plus => exact hdigits false
  | minus => exact hdigits true
  | none =>
    obtain ⟨negative, sign, cs', hsign, hcs, htoken⟩ :=
      exponentToken_eq p ((d :: ds').map some ++ rest)
    -- A sign is no digit, so there is none.
    cases hsign with
    | plus =>
      obtain ⟨heq, -⟩ := List.cons.inj hcs
      cases heq
      cases hd
    | minus =>
      obtain ⟨heq, -⟩ := List.cons.inj hcs
      cases heq
      cases hd
    | none =>
      show exponentToken p ((d :: ds').map some ++ rest) = _
      rw [htoken, show cs' = (d :: ds').map some ++ rest from hcs.symm]
      exact hdigits false

theorem numberEnd_of_ends (hrest : NumberEnds rest) (p : NumberParts) :
    numberEnd p rest = (.number p.number?, rest) := by
  unfold numberEnd
  split
  · next rest =>
    obtain ⟨-, -, he, -⟩ := hrest 'e' rfl
    exact absurd rfl he
  · next rest =>
    obtain ⟨-, -, -, hE⟩ := hrest 'E' rfl
    exact absurd rfl hE
  · rfl

theorem numberTail_of_ends (hrest : NumberEnds rest) (p : NumberParts) :
    numberTail p rest = (.number p.number?, rest) := by
  unfold numberTail
  split
  · next rest =>
    obtain ⟨-, hdot, -⟩ := hrest '.' rfl
    exact absurd rfl hdot
  · exact numberEnd_of_ends hrest p

theorem numberEnd_append (h : ExponentPart p q exponent) (hrest : NumberEnds rest) :
    numberEnd p (exponent.map some ++ rest) = (.number q.number?, rest) := by
  cases h with
  | none => exact numberEnd_of_ends hrest p
  | digits hletter hsign hds =>
    have htoken := @exponentToken_append p _ _ _ _ hsign hds hrest.digitsEnd
    rw [List.map_cons, List.map_append, List.cons_append, List.append_assoc]
    rcases hletter with rfl | rfl
    · exact htoken
    · exact htoken

theorem ExponentPart.digitsEnd (h : ExponentPart p q exponent) (hrest : DigitsEnd rest) :
    DigitsEnd (exponent.map some ++ rest) := by
  cases h with
  | none => exact hrest
  | digits hletter _ _ =>
    rcases hletter with rfl | rfl <;> rintro _ ⟨⟩ <;> rfl

theorem FractionPart.digitsEnd (h : FractionPart p q fraction) (hrest : DigitsEnd rest) :
    DigitsEnd (fraction.map some ++ rest) := by
  cases h with
  | none => exact hrest
  | digits _ =>
    rintro _ ⟨⟩
    rfl

theorem numberTail_append (hfraction : FractionPart p q fraction) (hexponent : ExponentPart q r exponent)
    (hrest : NumberEnds rest) :
    numberTail p (fraction.map some ++ (exponent.map some ++ rest)) = (.number r.number?, rest) := by
  have hend := numberEnd_append hexponent hrest
  cases hfraction with
  | digits hds =>
    have hspan := spanDigits_append hds.2 (hexponent.digitsEnd hrest.digitsEnd)
    obtain ⟨d, ds', rfl, -⟩ := hds.exists_cons
    show numberTail p (some '.' :: ((d :: ds').map some ++ (exponent.map some ++ rest))) = _
    rw [numberTail, hspan]
    exact hend
  | none =>
    -- An exponent starts with a letter, so that nothing in it is taken for the point.
    cases hexponent with
    | none => exact numberTail_of_ends hrest p
    | digits hletter _ _ =>
      rcases hletter with rfl | rfl
      · exact hend
      · exact hend

/-- The digits before the point are read up to where they end, if no zero leads them. -/
theorem numberToken_append (negative : Bool) (hds : Digits ds) (hzero : ds.head? = some '0' → ds = ['0'])
    (hrest : DigitsEnd rest) :
    numberToken negative (ds.map some ++ rest) =
      numberTail { negative := negative, whole := ds } rest := by
  unfold numberToken
  rw [spanDigits_append hds.2 hrest]
  split
  · next h => exact absurd (congrArg Prod.fst h) hds.1
  · next h => exact absurd (congrArg Prod.fst h) hds.1
  · next h =>
    obtain ⟨rfl, rfl⟩ := Prod.mk.inj h
    rfl
  · next ds' rest' hnot h =>
    -- A zero that leads other digits is excluded.
    obtain ⟨rfl, rfl⟩ := Prod.mk.inj h
    exact absurd (List.cons.inj (hzero rfl)).2 hnot
  · next h =>
    obtain ⟨rfl, rfl⟩ := Prod.mk.inj h
    rfl

/-- A numeral is read as the number that its parts denote. -/
theorem tokens_numeral {text : List Char} (h : Numeral p text) (hrest : NumberEnds rest) :
    tokens (text.map some ++ rest) = .number p.number? :: tokens rest := by
  obtain ⟨hds, hzero, hfraction, hexponent⟩ := h
  next negative ds fraction exponent _ =>
  have hend : DigitsEnd (fraction.map some ++ (exponent.map some ++ rest)) :=
    hfraction.digitsEnd (hexponent.digitsEnd hrest.digitsEnd)
  have htoken : numberToken negative (ds.map some ++ (fraction.map some ++ (exponent.map some ++ rest))) =
      (.number p.number?, rest) := by
    rw [numberToken_append negative hds hzero hend]
    exact numberTail_append hfraction hexponent hrest
  simp only [List.map_append, List.append_assoc]
  cases negative with
  | true => exact tokens_cons rfl htoken
  | false =>
    obtain ⟨d, ds', rfl, hd⟩ := hds.exists_cons
    exact tokens_cons (isGap_of_isDigit hd) ((tokenAt_of_isDigit hd _).trans htoken)

end Numerals

/-! ## Strings are read -/

section Strings

variable {state : StringState} {rest before : List Symbol} {a b c d : Char} {n high : Nat}

theorem stringToken_plain (hquote : c ≠ '"') (hbackslash : c ≠ '\\') (hcontrol : 0x20 ≤ c.toNat) :
    stringToken state (some c :: rest) = stringToken (state.push (some c)) rest := by
  rw [stringToken, if_neg (Nat.not_lt.2 hcontrol)]
  all_goals grind

theorem stringToken_escape {e : Char} (he : escapedChar? e = some c) :
    stringToken state (some '\\' :: some e :: rest) = stringToken (state.push (some c)) rest := by
  have hunit : e ≠ 'u' := by
    rintro rfl
    cases he
  rw [stringToken, he]
  all_goals grind

theorem stringToken_unit (hn : hexQuad? (some a) (some b) (some c) (some d) = some n) :
    stringToken state (some '\\' :: some 'u' :: some a :: some b :: some c :: some d :: rest) =
      stringToken (state.pushUnit n) rest := by
  rw [stringToken, hn]

theorem isLowSurrogate_of_isHighSurrogate (h : isHighSurrogate n = true) : isLowSurrogate n = false := by
  simp only [isHighSurrogate, isLowSurrogate, Bool.and_eq_true, decide_eq_true_eq, Bool.and_eq_false_iff,
    decide_eq_false_iff_not] at h ⊢
  omega

theorem pushUnit_char (hhigh : isHighSurrogate n = false) (hlow : isLowSurrogate n = false) :
    StringState.pushUnit ⟨before, none, none⟩ n = ⟨some (Char.ofNat n) :: before, none, none⟩ := by
  simp [StringState.pushUnit, hhigh, hlow]

theorem pushUnit_high (hhigh : isHighSurrogate n = true) :
    StringState.pushUnit ⟨before, none, none⟩ n = ⟨before, some n, none⟩ := by
  simp [StringState.pushUnit, hhigh, isLowSurrogate_of_isHighSurrogate hhigh]

theorem pushUnit_low (hlow : isLowSurrogate n = true) :
    StringState.pushUnit ⟨before, some high, none⟩ n = ⟨some (pairChar high n) :: before, none, none⟩ := by
  simp [StringState.pushUnit, hlow]

/-- The body of a string is read as the characters that it denotes. -/
theorem stringToken_of_body {text s : List Char} (h : StringBody text s) (before rest : List Symbol) :
    stringToken ⟨before, none, none⟩ (text.map some ++ rest) =
      stringToken ⟨(s.map some).reverse ++ before, none, none⟩ rest := by
  have hcons : ∀ (c : Char) (s : List Char) (before : List Symbol),
      ((c :: s).map some).reverse ++ before = (s.map some).reverse ++ some c :: before := by
    intro c s before
    rw [List.map_cons, List.reverse_cons, List.append_assoc, List.singleton_append]
  induction h generalizing before with
  | nil => rfl
  | plain hquote hbackslash hcontrol _ ih =>
    rw [hcons, ← ih]
    exact stringToken_plain hquote hbackslash hcontrol
  | escape he _ ih =>
    rw [hcons, ← ih]
    exact stringToken_escape he
  | unit hn hhigh hlow _ ih =>
    rw [hcons, ← ih, ← pushUnit_char hhigh hlow]
    exact stringToken_unit hn
  | pair hn hhigh hn' hlow _ ih =>
    rw [hcons, ← ih, ← pushUnit_low hlow, ← pushUnit_high hhigh]
    exact (stringToken_unit hn).trans (stringToken_unit hn')

theorem mapM_id_map_some {α : Type} (as : List α) : (as.map some).mapM id = some as := by
  induction as with
  | nil => rfl
  | cons a as ih => simp [ih]

/-- A string is read as the characters that stand between its quotes. -/
theorem tokens_string {text s : List Char} (h : StringBody text s) (rest : List Symbol) :
    tokens (('"' :: (text ++ ['"'])).map some ++ rest) =
      .string (.ok (String.ofList s)) :: tokens rest := by
  have htoken : stringToken {} (text.map some ++ some '"' :: rest) =
      (.string (.ok (String.ofList s)), rest) := by
    rw [stringToken_of_body h, stringToken]
    simp only [StringState.finish, StringState.settle, List.append_nil, List.reverse_reverse,
      mapM_id_map_some]
  rw [List.map_cons, List.map_append, List.cons_append, List.append_assoc]
  exact tokens_cons rfl htoken

end Strings

/-! ## Texts are read -/

theorem numberEnds_of_spelling {text : List Char} {ts : List Token} (h : Spelling text ts)
    (hends : ∀ t ∈ ts.head?, t.Ends) : NumberEnds (text.map some) := by
  cases h with
  | nil => exact numberEnds_nil
  | gap hc _ =>
    rintro _ ⟨⟩
    simp only [isGap, Bool.or_eq_true, beq_iff_eq] at hc
    rcases hc with ((rfl | rfl) | rfl) | rfl <;> decide
  | word hword _ =>
    rcases hends _ rfl with rfl | rfl | rfl
    all_goals
      cases hword with
      | fixed h =>
        cases h
        exact numberEnds_of_mark (by decide)

/-- A text is cut into the tokens of which it consists. -/
theorem tokens_of_spelling {text : List Char} {ts : List Token} (h : Spelling text ts)
    (hapart : Apart ts) : tokens (text.map some) = ts := by
  induction h with
  | nil => rw [List.map_nil, tokens]
  | gap hc _ ih =>
    rw [List.map_cons, tokens, Option.any_some, if_pos hc]
    exact ih hapart
  | word hword hrest ih =>
    obtain ⟨hfirst, hapart⟩ := List.isChain_cons.1 hapart
    rw [List.map_append, ← ih hapart]
    cases hword with
    | fixed h => exact tokens_fixed h _
    | number h hn =>
      have hends := numberEnds_of_spelling hrest fun t ht => hfirst t ht ⟨_, rfl⟩
      rw [tokens_numeral h hends, hn]
    | string h => exact tokens_string h _

end BoxOffice.Json
