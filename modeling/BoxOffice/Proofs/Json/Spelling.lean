import BoxOffice.Json.Printer
import BoxOffice.Proofs.Json.Grammar
import BoxOffice.Proofs.Text.Numeral

/-!
# Tokens of printed pieces

The pieces of a printed value lie in the grammar: a string is written between quotes with its escapes, and a
whole number as a numeral that denotes it. So each is read as one token.
-/

namespace BoxOffice.Json

open BoxOffice.Text BoxOffice.Text.Utf8

/-! ## Strings -/

theorem hexQuad?_of_control : ∀ n < 32,
    hexQuad? (some '0') (some '0') (some (hexDigit (n / 16))) (some (hexDigit (n % 16))) = some n := by
  decide

/-- A character is denoted by its escape. -/
theorem body_escapeChar (c : Char) {text s : List Char} (h : StringBody text s) :
    StringBody (escapeChar c ++ text) (c :: s) := by
  unfold escapeChar
  split
  case h_8 hquote hbackslash _ _ _ _ _ =>
    split
    · next hcontrol =>
      have hquad := hexQuad?_of_control c.toNat hcontrol
      have hlow : isLowSurrogate c.toNat = false := by
        simp only [isLowSurrogate, Bool.and_eq_false_iff, decide_eq_false_iff_not]
        omega
      have hhigh : isHighSurrogate c.toNat = false := by
        simp only [isHighSurrogate, Bool.and_eq_false_iff, decide_eq_false_iff_not]
        omega
      have hunit := StringBody.unit hquad hhigh hlow h
      rw [Char.ofNat_toNat] at hunit
      exact hunit
    · next hprintable => exact .plain hquote hbackslash (Nat.le_of_not_lt hprintable) h
  all_goals exact .escape rfl h

theorem body_flatMap (cs : List Char) : StringBody (cs.flatMap escapeChar) cs := by
  induction cs with
  | nil => exact .nil
  | cons c cs ih => exact body_escapeChar c ih

/-- A string is read back from its text. -/
theorem tokens_stringChars (s : String) (rest : List Symbol) :
    tokens ((stringChars s).map some ++ rest) = .string (.ok s) :: tokens rest := by
  have hstring := tokens_string (body_flatMap s.toList) rest
  rw [String.ofList_toList] at hstring
  exact hstring

/-! ## Numbers -/

/-- One digit more, as long as the significand fits. -/
theorem addWholeDigits_concat {a m d : Nat} {ds : List Char} (h : addWholeDigits a 0 ds = (m, 0))
    (hd : d < 10) (hfits : m * 10 + d ≤ greatestSignificand) :
    addWholeDigits a 0 (ds ++ [Nat.digitChar d]) = (m * 10 + d, 0) := by
  induction ds generalizing a with
  | nil =>
    cases h
    simp [addWholeDigits, (digitChar_eq d hd).2, hfits]
  | cons c ds ih =>
    rw [addWholeDigits] at h
    rw [List.cons_append, addWholeDigits]
    split at h
    · next hnext =>
      rw [if_pos hnext]
      exact ih h
    · -- A digit that does not fit counts in the exponent.
      have := congrArg Prod.snd h
      simp only at this
      omega

theorem addWholeDigits_natDigits {n : Nat} (h : n ≤ greatestSignificand) :
    addWholeDigits 0 0 (natDigits n) = (n, 0) := by
  induction n using Nat.strongRecOn with
  | ind n ih =>
    by_cases hn : n < 10
    · have hone := addWholeDigits_concat (show addWholeDigits 0 0 [] = (0, 0) from rfl) hn (by omega)
      rw [natDigits_of_lt hn]
      simpa using hone
    · have hrest := ih (n / 10) (by omega) (by omega)
      have hmore := addWholeDigits_concat hrest (Nat.mod_lt n (by decide)) (by omega)
      rw [natDigits_of_le (Nat.le_of_not_lt hn), hmore]
      congr 1
      omega

theorem Whole.ofInt?_val (n : Whole) : Whole.ofInt? n.val = some n := by
  unfold Whole.ofInt?
  rw [dif_pos ⟨n.lower, n.upper⟩]

/-- The parts of a whole number denote it. -/
theorem number?_natDigits (n : Whole) :
    NumberParts.number? { negative := decide (n.val < 0), whole := natDigits n.val.natAbs } =
      some (.whole n) := by
  have hlower := n.lower
  have hupper := n.upper
  have hdigits : addWholeDigits 0 0 (natDigits n.val.natAbs) = (n.val.natAbs, 0) :=
    addWholeDigits_natDigits (by unfold greatestSignificand UInt64.size; omega)
  have hplain : (decide (n.val < 0) && n.val.natAbs == 0) = false := by
    simp only [Bool.and_eq_false_iff, decide_eq_false_iff_not, beq_eq_false_iff_ne]
    omega
  have hval : (if decide (n.val < 0) then -(n.val.natAbs : Int) else n.val.natAbs) = n.val := by
    by_cases hneg : n.val < 0
    · rw [decide_eq_true hneg, if_pos rfl]
      omega
    · rw [decide_eq_false hneg, if_neg (by decide)]
      omega
  unfold NumberParts.number?
  simp only [hdigits, addFractionDigits, hplain, hval, Whole.ofInt?_val]
  rfl

theorem numeral_natDigits (negative : Bool) (m : Nat) :
    Numeral { negative := negative, whole := natDigits m } (minusSign negative ++ natDigits m) := by
  have hzero : (natDigits m).head? = some '0' → natDigits m = ['0'] := by
    intro hhead
    rcases Nat.eq_zero_or_pos m with rfl | hm
    · rfl
    · exact absurd hhead (head?_natDigits_ne_zero hm)
  have hnumeral := @Numeral.mk negative _ _ _ _ _ ⟨natDigits_ne_nil m, isDigit_of_mem_natDigits m⟩ hzero
    .none .none
  rw [List.append_nil, List.append_nil] at hnumeral
  exact hnumeral

/-- A whole number is read back from its text. -/
theorem tokens_intChars {rest : List Symbol} (hrest : NumberEnds rest) (n : Whole) :
    tokens ((intChars n.val).map some ++ rest) = .number (some (.whole n)) :: tokens rest := by
  have htext : intChars n.val = minusSign (decide (n.val < 0)) ++ natDigits n.val.natAbs := by
    unfold intChars minusSign
    by_cases hneg : n.val < 0
    · rw [if_pos hneg, decide_eq_true hneg]
      rfl
    · rw [if_neg hneg, decide_eq_false hneg]
      rfl
  rw [htext, tokens_numeral (numeral_natDigits _ _) hrest, number?_natDigits]

end BoxOffice.Json
