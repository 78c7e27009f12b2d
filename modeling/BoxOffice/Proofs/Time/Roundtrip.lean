import BoxOffice.Proofs.Chain
import BoxOffice.Proofs.Text.Numeral
import BoxOffice.Time.Reading

/-!
# Timestamps are read back

A timestamp is read back from its text (`Timestamp.read_text`).

1. Digits of a fixed width are read as the number they were written for, whatever follows them; a year with a sign and
   a short fraction are followed by a mark.
2. The date, the time of day and the offset are read one after another.
3. In universal time the fields are the moment.
-/

namespace BoxOffice.Time

open BoxOffice.Text

/-! ## Digits -/

theorem isBlank_of_isDigit {c : Char} (hc : isDigit c = true) : isBlank c = false := by
  obtain ⟨hlow, hhigh⟩ : '0' ≤ c ∧ c ≤ '9' := by simpa [isDigit] using hc
  have hlow : 48 ≤ c.toNat := hlow
  have hhigh : c.toNat ≤ 57 := hhigh
  simp [isBlank]
  omega

theorem natOfDigits_replicate_append (k : Nat) (ds : List Char) :
    natOfDigits (List.replicate k '0' ++ ds) = natOfDigits ds := by
  induction k with
  | zero => rfl
  | succ k ih =>
    rw [← ih]
    rfl

section Padded

variable (width n : Nat)

theorem natOfDigits_padded : natOfDigits (padded width n) = n := by
  unfold padded
  rw [natOfDigits_replicate_append, natOfDigits_natDigits]

theorem isDigit_of_mem_padded : ∀ c ∈ padded width n, isDigit c = true := by
  intro c hc
  rcases List.mem_append.1 hc with hzero | hdigit
  · rw [(List.mem_replicate.1 hzero).2]
    decide
  · exact isDigit_of_mem_natDigits n c hdigit

theorem padded_ne_nil : padded width n ≠ [] :=
  List.append_ne_nil_of_right_ne_nil _ (natDigits_ne_nil n)

variable {width n}

theorem length_padded (hwidth : 0 < width) (h : n < Nat.pow 10 width) : (padded width n).length = width := by
  have hle := length_natDigits_le hwidth h
  unfold padded
  rw [List.length_append, List.length_replicate]
  omega

theorem dropBlanks_padded_append (rest : List Char) :
    dropBlanks (padded width n ++ rest) = padded width n ++ rest := by
  obtain ⟨d, ds, hds⟩ := List.exists_cons_of_ne_nil (padded_ne_nil width n)
  apply dropBlanks_eq_self
  rw [hds]
  rintro _ ⟨⟩
  exact isBlank_of_isDigit (isDigit_of_mem_padded width n d (by rw [hds]; exact List.mem_cons_self))

end Padded

/-- No number goes on behind the digits: they are as many as are read, or no digit follows. -/
def DigitsEnd (most : Nat) (ds rest : List Char) : Prop :=
  ds.length = most ∨ ds.length ≤ most ∧ ∀ c ∈ rest.head?, isDigit c = false

theorem takeDigits_append {most : Nat} {ds rest : List Char} (hds : ∀ c ∈ ds, isDigit c = true)
    (hend : DigitsEnd most ds rest) : takeDigits most (ds ++ rest) = ds := by
  unfold takeDigits
  rcases hend with rfl | ⟨hle, hrest⟩
  · have hall : (ds ++ []).takeWhile isDigit = ds ++ [].takeWhile isDigit := List.takeWhile_append_of_pos hds
    rw [List.take_left]
    simpa using hall
  · rw [List.take_append, List.take_of_length_le hle, List.takeWhile_append_of_pos hds]
    have hnone : (rest.take (most - ds.length)).takeWhile isDigit = [] := by
      cases rest with
      | nil => simp
      | cons c rest =>
        cases most - ds.length with
        | zero => rfl
        | succ k => simp [hrest c rfl]
    rw [hnone, List.append_nil]

theorem number_append {most : Nat} {ds rest : List Char} (hne : ds ≠ []) (hds : ∀ c ∈ ds, isDigit c = true)
    (hend : DigitsEnd most ds rest) : number most (ds ++ rest) = .ok (natOfDigits ds, rest) := by
  have htake := takeDigits_append hds hend
  obtain ⟨d, ds', rfl⟩ := List.exists_cons_of_ne_nil hne
  unfold number
  rw [htake]
  simp

theorem number_padded {most width n : Nat} {rest : List Char}
    (hend : DigitsEnd most (padded width n) rest) :
    number most (padded width n ++ rest) = .ok (n, rest) := by
  rw [number_append (padded_ne_nil width n) (isDigit_of_mem_padded width n) hend, natOfDigits_padded]

/-! ## Fields -/

/-- A number of two digits is read back. -/
theorem field_padded {low high n : Nat} (hlow : low ≤ n) (hhigh : n ≤ high) (h : n < 100) (rest : List Char) :
    field low high (padded 2 n ++ rest) = .ok (n, rest) := by
  have hend : DigitsEnd 2 (padded 2 n) rest := .inl (length_padded (by decide) h)
  unfold field
  rw [dropBlanks_padded_append, number_padded hend]
  simp [bind, Except.bind, hlow, hhigh]

theorem mark_cons {c : Char} (hc : isBlank c = false) (rest : List Char) : mark c (c :: rest) = .ok rest := by
  have hdrop : dropBlanks (c :: rest) = c :: rest := dropBlanks_eq_self (by rintro _ ⟨⟩; exact hc)
  unfold mark
  rw [hdrop]
  simp

theorem yearField_minus (rest : List Char) :
    yearField ('-' :: rest) = number rest.length rest >>= fun read => yearOf (-(read.1 : Int)) read.2 := rfl

theorem yearField_plus (rest : List Char) :
    yearField ('+' :: rest) = number rest.length rest >>= fun read => yearOf read.1 read.2 := rfl

theorem yearField_of_unsigned {cs : List Char} (h : ∀ c ∈ (dropBlanks cs).head?, c ≠ '-' ∧ c ≠ '+') :
    yearField cs = number 4 (dropBlanks cs) >>= fun read => yearOf read.1 read.2 := by
  unfold yearField
  split
  · next heq =>
    rw [heq] at h
    exact absurd rfl (h '-' rfl).1
  · next heq =>
    rw [heq] at h
    exact absurd rfl (h '+' rfl).2
  · rfl

theorem yearField_padded {n : Nat} (h : n < 10000) (rest : List Char) :
    yearField (padded 4 n ++ rest) = yearOf n rest := by
  have hend : DigitsEnd 4 (padded 4 n) rest := .inl (length_padded (by decide) h)
  rw [yearField_of_unsigned, dropBlanks_padded_append, number_padded hend]
  · rfl
  · -- A digit is no sign.
    obtain ⟨d, ds, hds⟩ := List.exists_cons_of_ne_nil (padded_ne_nil 4 n)
    have hd := isDigit_of_mem_padded 4 n d (by rw [hds]; exact List.mem_cons_self)
    rw [dropBlanks_padded_append, hds]
    rintro _ ⟨⟩
    constructor <;> rintro rfl <;> exact absurd hd (by decide)

/-- A year is read back if a mark follows. -/
theorem yearField_yearChars {year : Int} (hfirst : firstYear ≤ year) (hlast : year ≤ lastYear)
    (rest : List Char) : yearField (yearChars year ++ '-' :: rest) = .ok (year, '-' :: rest) := by
  unfold firstYear at hfirst
  unfold lastYear at hlast
  have hyear : yearOf year ('-' :: rest) = .ok (year, '-' :: rest) := by
    have hbounds : Int32.minValue.toInt ≤ year ∧ year ≤ Int32.maxValue.toInt := by
      rw [show Int32.minValue.toInt = -2147483648 from rfl, show Int32.maxValue.toInt = 2147483647 from rfl]
      omega
    unfold yearOf
    rw [if_pos hbounds]
  have hsigned : number (padded 4 year.natAbs ++ '-' :: rest).length (padded 4 year.natAbs ++ '-' :: rest) =
      .ok (year.natAbs, '-' :: rest) := by
    refine number_padded (.inr ⟨?_, ?_⟩)
    · rw [List.length_append]
      exact Nat.le_add_right _ _
    · rintro _ ⟨⟩
      decide
  unfold yearChars
  split
  · next hplain =>
    have hval : (year.natAbs : Int) = year := by omega
    rw [yearField_padded (by omega), hval, hyear]
  · next hsign =>
    by_cases hneg : year < 0
    · have hval : -(year.natAbs : Int) = year := by omega
      rw [if_pos hneg, List.cons_append, yearField_minus, hsigned]
      show yearOf (-(year.natAbs : Int)) ('-' :: rest) = _
      rw [hval, hyear]
    · have hval : (year.natAbs : Int) = year := by omega
      rw [if_neg hneg, List.cons_append, yearField_plus, hsigned]
      show yearOf (year.natAbs : Int) ('-' :: rest) = _
      rw [hval, hyear]

/-- A fraction of three, six or nine digits is read back if no digit follows. -/
theorem fraction_padded {width n : Nat} (hwidth : 0 < width) (hle : width ≤ 9) (h : n < Nat.pow 10 width)
    {rest : List Char} (hrest : ∀ c ∈ rest.head?, isDigit c = false) :
    fraction ('.' :: (padded width n ++ rest)) = .ok (n * Nat.pow 10 (9 - width), rest) := by
  have hlength := length_padded hwidth h
  have hend : DigitsEnd 9 (padded width n) rest := .inr ⟨hlength.symm ▸ hle, hrest⟩
  have hdrop : rest.dropWhile isDigit = rest := by
    cases rest with
    | nil => rfl
    | cons c rest => simp [hrest c rfl]
  unfold fraction
  simp only [number_padded hend, bind, Except.bind, hdrop, List.length_append, Nat.add_sub_cancel, hlength]

theorem fraction_fractionChars {nano : Nat} (h : nano < 1000000000) {rest : List Char}
    (hrest : ∀ c ∈ rest.head?, isDigit c = false ∧ c ≠ '.') :
    fraction (fractionChars nano ++ rest) = .ok (nano, rest) := by
  have hend : ∀ c ∈ rest.head?, isDigit c = false := fun c hc => (hrest c hc).1
  unfold fractionChars
  split
  · next hzero =>
    subst hzero
    rw [List.nil_append]
    unfold fraction
    split
    · exact absurd rfl (hrest '.' rfl).2
    · rfl
  split
  · next hmillis =>
    have hval : nano / 1000000 * Nat.pow 10 (9 - 3) = nano := Nat.div_mul_cancel (Nat.dvd_of_mod_eq_zero hmillis)
    have hfits : nano / 1000000 < Nat.pow 10 3 := Nat.div_lt_of_lt_mul h
    rw [List.cons_append, fraction_padded (by decide) (by decide) hfits hend, hval]
  split
  · next hmicros =>
    have hval : nano / 1000 * Nat.pow 10 (9 - 6) = nano := Nat.div_mul_cancel (Nat.dvd_of_mod_eq_zero hmicros)
    have hfits : nano / 1000 < Nat.pow 10 6 := Nat.div_lt_of_lt_mul h
    rw [List.cons_append, fraction_padded (by decide) (by decide) hfits hend, hval]
  · have hval : nano * Nat.pow 10 (9 - 9) = nano := Nat.mul_one nano
    rw [List.cons_append, fraction_padded (by decide) (by decide) h hend, hval]

/-! ## Timestamps -/

theorem daysInMonth_le (year : Int) (month : Nat) : daysInMonth year month ≤ 31 := by
  unfold daysInMonth
  split
  · split <;> decide
  all_goals decide

/-- A date is read back. -/
theorem dateField_written {d : Date} (hd : d.IsValid) (rest : List Char) :
    dateField (yearChars d.year ++ '-' :: (padded 2 d.month ++ '-' :: (padded 2 d.day ++ rest))) =
      .ok (d, rest) := by
  obtain ⟨hfirst, hlast, hmonth, hmonth', hday, hday'⟩ := hd
  have hdays := daysInMonth_le d.year d.month
  unfold dateField
  rw [yearField_yearChars hfirst hlast]
  simp only [bind, Except.bind, mark_cons (show isBlank '-' = false by decide)]
  rw [field_padded hmonth hmonth' (by omega)]
  simp only [mark_cons (show isBlank '-' = false by decide)]
  rw [field_padded hday (by omega) (by omega)]

/-- A time of day is read back if neither a digit nor a point follows. -/
theorem clockField_written {c : Clock} (hc : c.IsValid) {rest : List Char}
    (hrest : ∀ c ∈ rest.head?, isDigit c = false ∧ c ≠ '.') :
    clockField (padded 2 c.hour ++ ':' :: (padded 2 c.minute ++ ':' :: (padded 2 c.second ++
      (fractionChars c.nano ++ rest)))) = .ok (c, rest) := by
  obtain ⟨hhour, hminute, hsecond, hnano⟩ := hc
  have hcolon : isBlank ':' = false := by decide
  unfold clockField
  rw [field_padded (Nat.zero_le _) (by omega) (by omega)]
  simp only [bind, Except.bind, mark_cons hcolon]
  rw [field_padded (Nat.zero_le _) (by omega) (by omega)]
  simp only [mark_cons hcolon]
  rw [field_padded (Nat.zero_le _) (by omega) (by omega)]
  simp only [fraction_fractionChars hnano hrest]

/-- The fields of a timestamp are those of the moment in universal time. -/
theorem read_chars (t : Timestamp) : Fields.read t.chars = .ok ⟨t.date, t.clock, 0⟩ := by
  have hchars : t.chars = yearChars t.date.year ++ '-' :: (padded 2 t.date.month ++ '-' :: (padded 2 t.date.day ++
      'T' :: (padded 2 t.clock.hour ++ ':' :: (padded 2 t.clock.minute ++ ':' :: (padded 2 t.clock.second ++
        (fractionChars t.clock.nano ++ ['Z'])))))) := by
    simp [Timestamp.chars]
  have hzone : ∀ c ∈ ['Z'].head?, isDigit c = false ∧ c ≠ '.' := by
    rintro _ ⟨⟩
    decide
  unfold Fields.read
  rw [hchars, dateField_written t.date_valid]
  simp only [bind, Except.bind, separator]
  rw [clockField_written t.clock_valid hzone]
  rfl

/-- Fields without an offset are a moment. -/
theorem moment_of_valid (t : Timestamp) : Fields.moment ⟨t.date, t.clock, 0⟩ = .ok t := by
  obtain ⟨date, clock, hdate, hclock⟩ := t
  have hminute := hclock.2.1
  have hhour := hclock.1
  have hminutes : (clock.hour * 60 + clock.minute - 0 : Int) % 1440 = clock.hour * 60 + clock.minute := by omega
  have hearly : ¬(clock.hour * 60 + clock.minute - 0 : Int) < 0 := by omega
  have hlate : ¬1440 ≤ (clock.hour * 60 + clock.minute - 0 : Int) := by omega
  have hhours : ((clock.hour * 60 + clock.minute : Int).toNat) / 60 = clock.hour := by omega
  have hrest : ((clock.hour * 60 + clock.minute : Int).toNat) % 60 = clock.minute := by omega
  unfold Fields.moment
  simp only [hminutes, hearly, hlate, hhours, hrest, if_false]
  simp [hdate, hclock]

/-- A timestamp is read back from its text. -/
theorem Timestamp.read_text (t : Timestamp) : Timestamp.read t.text = .ok t := by
  unfold Timestamp.read Timestamp.text
  rw [String.toList_ofList, read_chars]
  exact moment_of_valid t

end BoxOffice.Time
