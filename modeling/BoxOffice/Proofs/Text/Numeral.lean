import BoxOffice.Proofs.Chain
import BoxOffice.Text.Numeral
import Mathlib.Data.List.Induction

/-!
# Numerals read back

A number that is written in base ten is read back. The digits of `n` are those of `n / 10` with the
last digit behind them, and the reader of bounded numbers goes the same way; no part of a number is
greater than the number, so the bound is kept on the way.

The texts that are read as a bounded number are those of `UnsignedNumeral`, as far as their number keeps
the bound (`boundedNat_eq_ok_iff`).
-/

namespace BoxOffice.Text

variable {most n : Nat}

/-! ## Digits -/

theorem digitChar_eq : ∀ d < 10, isDigit (Nat.digitChar d) = true ∧ digitValue (Nat.digitChar d) = d := by
  decide

theorem natDigits_of_lt (h : n < 10) : natDigits n = [Nat.digitChar n] :=
  Nat.toDigits_of_lt_base h

theorem natDigits_of_le (h : 10 ≤ n) : natDigits n = natDigits (n / 10) ++ [Nat.digitChar (n % 10)] :=
  Nat.toDigits_of_base_le (by decide) h

theorem natDigits_ne_nil (n : Nat) : natDigits n ≠ [] := by
  by_cases h : n < 10
  · rw [natDigits_of_lt h]
    exact List.cons_ne_nil _ _
  · rw [natDigits_of_le (Nat.le_of_not_lt h)]
    exact List.append_ne_nil_of_right_ne_nil _ (List.cons_ne_nil _ _)

theorem isDigit_of_mem_natDigits (n : Nat) : ∀ c ∈ natDigits n, isDigit c = true := by
  induction n using Nat.strongRecOn with
  | ind n ih =>
    intro c hc
    by_cases h : n < 10
    · rw [natDigits_of_lt h, List.mem_singleton] at hc
      rw [hc]
      exact (digitChar_eq n h).1
    · rw [natDigits_of_le (Nat.le_of_not_lt h), List.mem_append, List.mem_singleton] at hc
      rcases hc with hc | rfl
      · exact ih (n / 10) (by omega) c hc
      · exact (digitChar_eq (n % 10) (Nat.mod_lt n (by decide))).1

/-- The digits of a number end where no digit follows. -/
theorem takeWhile_natDigits_append {rest : List Char} (h : ∀ c ∈ rest.head?, isDigit c = false) :
    (natDigits n ++ rest).takeWhile isDigit = natDigits n := by
  have hrest : rest.takeWhile isDigit = [] := by
    cases rest with
    | nil => rfl
    | cons c rest => simp [h c rfl]
  rw [List.takeWhile_append_of_pos (isDigit_of_mem_natDigits n), hrest, List.append_nil]

/-- Only zero starts with a zero. -/
theorem head?_natDigits_ne_zero (h : 0 < n) : (natDigits n).head? ≠ some '0' := by
  induction n using Nat.strongRecOn with
  | ind n ih =>
    by_cases hn : n < 10
    · have hchar : ∀ d < 10, 0 < d → Nat.digitChar d ≠ '0' := by decide
      rw [natDigits_of_lt hn, List.head?_cons, ne_eq, Option.some.injEq]
      exact hchar n hn h
    · have hrest := ih (n / 10) (by omega) (by omega)
      obtain ⟨d, ds, hds⟩ := List.exists_cons_of_ne_nil (natDigits_ne_nil (n / 10))
      rw [natDigits_of_le (Nat.le_of_not_lt hn)]
      rw [hds] at hrest ⊢
      exact hrest

theorem natOfDigits_append_singleton (ds : List Char) (c : Char) :
    natOfDigits (ds ++ [c]) = natOfDigits ds * 10 + digitValue c := by
  unfold natOfDigits
  rw [List.foldl_append, List.foldl_cons, List.foldl_nil]

theorem natOfDigits_concat {d : Nat} (ds : List Char) (hd : d < 10) :
    natOfDigits (ds ++ [Nat.digitChar d]) = natOfDigits ds * 10 + d := by
  rw [natOfDigits_append_singleton, (digitChar_eq d hd).2]

theorem natOfDigits_natDigits (n : Nat) : natOfDigits (natDigits n) = n := by
  induction n using Nat.strongRecOn with
  | ind n ih =>
    by_cases hn : n < 10
    · rw [natDigits_of_lt hn, ← List.nil_append [Nat.digitChar n], natOfDigits_concat [] hn]
      exact Nat.zero_add n
    · rw [natDigits_of_le (Nat.le_of_not_lt hn), natOfDigits_concat _ (Nat.mod_lt n (by decide)),
        ih (n / 10) (by omega)]
      omega

theorem length_natDigits_le {width : Nat} (hwidth : 0 < width) (h : n < Nat.pow 10 width) :
    (natDigits n).length ≤ width := by
  induction width generalizing n with
  | zero => exact absurd hwidth (Nat.lt_irrefl 0)
  | succ width ih =>
    by_cases hn : n < 10
    · rw [natDigits_of_lt hn]
      exact Nat.succ_le_succ (Nat.zero_le width)
    · have hrest : n / 10 < Nat.pow 10 width := by
        have hsucc : Nat.pow 10 (width + 1) = Nat.pow 10 width * 10 := rfl
        omega
      have hpos : 0 < width := by
        rcases Nat.eq_zero_or_pos width with rfl | hpos
        · exact absurd h hn
        · exact hpos
      rw [natDigits_of_le (Nat.le_of_not_lt hn), List.length_append]
      exact Nat.succ_le_succ (ih hpos hrest)

/-! ## Bounded numbers -/

theorem boundedDigits_append_singleton (ds : List Char) (c : Char) :
    boundedDigits most (ds ++ [c]) = boundedDigits most ds >>= fun m =>
      if isDigit c then
        let next := m * 10 + digitValue c
        if next ≤ most then .ok next else .error .tooLarge
      else .error .badDigit := by
  unfold boundedDigits
  rw [List.foldlM_append]
  simp only [List.foldlM_cons, List.foldlM_nil, bind_pure]

/-- Digits are read as the number that they denote, unless it exceeds the bound. -/
theorem boundedDigits_eq_ok_iff {ds : List Char} :
    boundedDigits most ds = .ok n ↔
      (∀ c ∈ ds, isDigit c = true) ∧ natOfDigits ds = n ∧ n ≤ most := by
  induction ds using List.reverseRecOn generalizing n with
  | nil =>
    constructor
    · rintro ⟨⟩
      exact ⟨nofun, rfl, Nat.zero_le most⟩
    · rintro ⟨-, rfl, -⟩
      rfl
  | append_singleton ds c ih =>
    rw [boundedDigits_append_singleton, bind_eq_ok_iff, natOfDigits_append_singleton]
    constructor
    · rintro ⟨m, hm, hnext⟩
      obtain ⟨hds, rfl, -⟩ := ih.1 hm
      obtain ⟨hc, hle, rfl⟩ : isDigit c = true ∧ natOfDigits ds * 10 + digitValue c ≤ most ∧
          natOfDigits ds * 10 + digitValue c = n := by
        split at hnext
        · next hc =>
          dsimp only at hnext
          split at hnext
          · next hle => exact ⟨hc, hle, Except.ok.inj hnext⟩
          · cases hnext
        · cases hnext
      refine ⟨fun d hd => ?_, rfl, hle⟩
      rcases List.mem_append.1 hd with hd | hd
      · exact hds d hd
      · rw [List.mem_singleton.1 hd]
        exact hc
    · rintro ⟨hall, rfl, hle⟩
      have hds : ∀ d ∈ ds, isDigit d = true := fun d hd => hall d (List.mem_append_left _ hd)
      have hc : isDigit c = true := hall c (List.mem_append_right _ (List.mem_singleton_self c))
      refine ⟨natOfDigits ds, ih.2 ⟨hds, rfl, by omega⟩, ?_⟩
      rw [if_pos hc]
      exact if_pos hle

theorem boundedDigits_natDigits (h : n ≤ most) : boundedDigits most (natDigits n) = .ok n :=
  boundedDigits_eq_ok_iff.2 ⟨isDigit_of_mem_natDigits n, natOfDigits_natDigits n, h⟩

theorem boundedDigits_cons_of_not_digit {c : Char} (hc : isDigit c = false) (cs : List Char) :
    boundedDigits most (c :: cs) = .error .badDigit := by
  unfold boundedDigits
  rw [List.foldlM_cons]
  simp [hc, bind, Except.bind]

/-- A text that is read as digits has no sign. -/
theorem boundedNat_of_boundedDigits {ds : List Char} (hne : ds ≠ [])
    (h : boundedDigits most ds = .ok n) : boundedNat most ds = .ok n := by
  unfold boundedNat
  split
  · exact absurd rfl hne
  · cases h
  · cases h
  · rw [boundedDigits_cons_of_not_digit (by decide)] at h
    cases h
  · exact h

/-- The characters are digits that denote the number, behind a plus sign perhaps. -/
inductive UnsignedNumeral (n : Nat) : List Char → Prop
  | plain {ds : List Char} : ds ≠ [] → (∀ c ∈ ds, isDigit c = true) → natOfDigits ds = n →
      UnsignedNumeral n ds
  | signed {ds : List Char} : ds ≠ [] → (∀ c ∈ ds, isDigit c = true) → natOfDigits ds = n →
      UnsignedNumeral n ('+' :: ds)

/-- The numerals that are read are those whose number keeps the bound. -/
theorem boundedNat_eq_ok_iff {cs : List Char} :
    boundedNat most cs = .ok n ↔ UnsignedNumeral n cs ∧ n ≤ most := by
  constructor
  · intro h
    unfold boundedNat at h
    split at h
    · cases h
    · cases h
    · cases h
    · next hplus =>
      obtain ⟨hds, hn, hle⟩ := boundedDigits_eq_ok_iff.1 h
      exact ⟨.signed (fun hnil => hplus (by rw [hnil])) hds hn, hle⟩
    · next hne _ _ _ =>
      obtain ⟨hds, hn, hle⟩ := boundedDigits_eq_ok_iff.1 h
      exact ⟨.plain hne hds hn, hle⟩
  · rintro ⟨hcs, hle⟩
    cases hcs with
    | plain hne hds hn => exact boundedNat_of_boundedDigits hne (boundedDigits_eq_ok_iff.2 ⟨hds, hn, hle⟩)
    | @signed ds hne hds hn =>
      have hread : boundedDigits most ds = .ok n := boundedDigits_eq_ok_iff.2 ⟨hds, hn, hle⟩
      obtain ⟨d, rest, rfl⟩ := List.exists_cons_of_ne_nil hne
      exact hread

/-! ## 64 bits -/

theorem int64Numeral_natDigits (h : n ≤ 9223372036854775807) :
    int64Numeral (natDigits n) = .ok (n : Int) := by
  have hdigits := boundedDigits_natDigits h
  unfold int64Numeral
  split
  · next heq =>
    rw [heq] at hdigits
    cases hdigits
  · next heq =>
    rw [heq, boundedDigits_cons_of_not_digit (by decide)] at hdigits
    cases hdigits
  · rw [boundedNat_of_boundedDigits (natDigits_ne_nil n) hdigits]
    rfl

theorem int64Numeral_neg_natDigits (h : n ≤ 9223372036854775808) :
    int64Numeral ('-' :: natDigits n) = .ok (-(n : Int)) := by
  have hdigits := boundedDigits_natDigits h
  unfold int64Numeral
  split
  · next heq => exact absurd (List.cons.inj heq).2 (natDigits_ne_nil n)
  · next heq =>
    obtain ⟨-, rfl⟩ := List.cons.inj heq
    rw [hdigits]
  · next hneg => exact absurd rfl (hneg _)

/-- A signed number of 64 bits is read back as it was written. -/
theorem int64Of?_intChars (i : Int64) : int64Of? (intChars i.toInt) = some i := by
  have hle := i.le_toInt
  have hlt := i.toInt_lt
  have hread : int64Numeral (intChars i.toInt) = .ok i.toInt := by
    unfold intChars
    split
    · rw [int64Numeral_neg_natDigits (by omega)]
      congr 1
      omega
    · rw [int64Numeral_natDigits (by omega)]
      congr 1
      omega
  unfold int64Of?
  rw [hread]
  exact congrArg some (Int64.ofInt_toInt i)

end BoxOffice.Text
