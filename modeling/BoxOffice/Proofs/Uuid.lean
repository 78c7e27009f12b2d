import BoxOffice.Proofs.Chain
import BoxOffice.Text.Blank
import BoxOffice.Uuid

/-!
# Spellings of identifiers

Which texts denote a request identifier, apart from how they are read.

1. A digit is written in lower or in upper case (`Writes`). Digits in groups have a hyphen between two groups
   (`Grouped`), and an identifier with hyphens has groups of 8, 4, 4, 4 and 12 digits (`Hyphenated`).
2. An identifier is spelled with hyphens or without, or with hyphens in braces or behind a word (`SpelledBy`).
   What is read is what is spelled (`parse?_eq_some_iff`), so that a text spells one identifier at most.
3. The canonical form is the one spelling with hyphens in lower case (`canonical_iff`). It is read as the
   identifier that it is the form of, so that different identifiers have different forms (`text_injective`).
-/

namespace BoxOffice.Uuid

open BoxOffice.Text

/-! ## Grammar -/

/-- The digits of base sixteen in lower case. -/
def lowerDigits : List Char := "0123456789abcdef".toList

/-- The digits of base sixteen in upper case. -/
def upperDigits : List Char := "0123456789ABCDEF".toList

/-- The character is the digit in lower case. -/
def WritesLower (d : Fin 16) (c : Char) : Prop := lowerDigits[d.val]? = some c

/-- The character is the digit, in lower or in upper case. -/
def Writes (d : Fin 16) (c : Char) : Prop := WritesLower d c ∨ upperDigits[d.val]? = some c

instance (d : Fin 16) (c : Char) : Decidable (Writes d c) := by
  unfold Writes WritesLower
  infer_instance

/-- The text is made of the characters, in groups of the given lengths with a hyphen between two groups. -/
inductive Grouped : List Nat → List Char → List Char → Prop
  | last {n : Nat} {group : List Char} : group.length = n → Grouped [n] group group
  | more {n : Nat} {ns : List Nat} {group cs text : List Char} : group.length = n → Grouped ns cs text →
      Grouped (n :: ns) (group ++ cs) (group ++ '-' :: text)

/-- The text holds the digits of the identifier, with hyphens. -/
def Hyphenated (W : Fin 16 → Char → Prop) (u : Uuid) (text : List Char) : Prop :=
  ∃ cs, List.Forall₂ W u.digits cs ∧ Grouped [8, 4, 4, 4, 12] cs text

/-- The text is a spelling of the identifier. -/
inductive SpelledBy (u : Uuid) : List Char → Prop
  | hyphenated {text : List Char} : Hyphenated Writes u text → SpelledBy u text
  | plain {text : List Char} : List.Forall₂ Writes u.digits text → SpelledBy u text
  | braced {text : List Char} : Hyphenated Writes u text → SpelledBy u ('\x7b' :: (text ++ ['\x7d']))
  | urn {word text : List Char} : word.map Char.toLower = "urn:uuid:".toList → Hyphenated Writes u text →
      SpelledBy u (word ++ text)

/-- The text is the identifier with hyphens and in lower case. -/
def Canonical (u : Uuid) (text : String) : Prop := Hyphenated WritesLower u text.toList

/-! ## Digits -/

section Digits

variable {u : Uuid} {d : Fin 16} {c : Char} {ds : List (Fin 16)} {cs : List Char}

theorem mem_digits_of_writes (h : Writes d c) : c ∈ lowerDigits ++ upperDigits :=
  List.mem_append.2 (h.imp List.mem_of_getElem? List.mem_of_getElem?)

theorem digit?_of_writes (h : Writes d c) : digit? c = some d := by
  have hlower : ∀ d : Fin 16, lowerDigits[d.val]?.bind digit? = some d := by decide
  have hupper : ∀ d : Fin 16, upperDigits[d.val]?.bind digit? = some d := by decide
  rcases h with h | h
  · rw [← hlower d, h]
    rfl
  · rw [← hupper d, h]
    rfl

/-- Only an ASCII character has a value. -/
theorem toNat_lt_of_hexValue? {n : Nat} (h : hexValue? c = some n) : c.toNat < 128 := by
  have hle : ∀ e : Char, c ≤ e → c.toNat ≤ e.toNat := fun e h => h
  unfold hexValue? isDigit at h
  simp only [Bool.and_eq_true, decide_eq_true_eq] at h
  split at h
  · next hdigit => exact Nat.lt_of_le_of_lt (hle _ hdigit.2) (by decide)
  · split at h
    · next hletter => exact Nat.lt_of_le_of_lt (hle _ hletter.2) (by decide)
    · split at h
      · next hletter => exact Nat.lt_of_le_of_lt (hle _ hletter.2) (by decide)
      · cases h

theorem digit?_eq_some_iff : digit? c = some d ↔ Writes d c := by
  refine ⟨fun h => ?_, digit?_of_writes⟩
  obtain ⟨n, hvalue, -⟩ := Option.bind_eq_some_iff.1 h
  have hascii : ∀ n < 128, ∀ d, digit? (Char.ofNat n) = some d → Writes d (Char.ofNat n) := by
    decide +kernel
  rw [← Char.ofNat_toNat c] at h ⊢
  exact hascii c.toNat (toNat_lt_of_hexValue? hvalue) d h

theorem mapM_digit?_eq_some_iff : cs.mapM digit? = some ds ↔ List.Forall₂ Writes ds cs := by
  induction cs generalizing ds with
  | nil => cases ds <;> simp
  | cons c cs ih =>
    rw [List.mapM_cons]
    cases ds with
    | nil => simp [Option.bind_eq_some_iff]
    | cons d ds =>
      simp only [Option.bind_eq_bind, Option.bind_eq_some_iff, Option.pure_def, Option.some.injEq,
        List.cons.injEq, List.forall₂_cons, ← ih, ← digit?_eq_some_iff]
      constructor
      · rintro ⟨_, hd, _, hds, rfl, rfl⟩
        exact ⟨hd, hds⟩
      · exact fun ⟨hd, hds⟩ => ⟨d, hd, ds, hds, rfl, rfl⟩

theorem ofDigits?_eq_some_iff : ofDigits? cs = some u ↔ List.Forall₂ Writes u.digits cs := by
  rw [← mapM_digit?_eq_some_iff]
  unfold ofDigits?
  simp only [Option.bind_eq_bind, Option.bind_eq_some_iff]
  constructor
  · rintro ⟨ds, hds, h⟩
    split at h
    · cases h
      exact hds
    · cases h
  · intro h
    exact ⟨u.digits, h, dif_pos u.length_digits⟩

end Digits

/-! ## Groups -/

section Groups

variable {u : Uuid} {ns : List Nat} {cs text : List Char}

theorem grouped_of_unhyphenate? (hns : ns ≠ []) (h : unhyphenate? ns text = some cs) :
    Grouped ns cs text := by
  induction ns generalizing cs text with
  | nil => exact absurd rfl hns
  | cons n ns ih =>
    cases ns with
    | nil =>
      simp only [unhyphenate?] at h
      split at h
      · next hlength =>
        cases h
        exact .last hlength
      · cases h
    | cons m ns =>
      simp only [unhyphenate?] at h
      split at h
      · next hcond =>
        simp only [Bool.and_eq_true, decide_eq_true_eq, beq_iff_eq, List.head?_drop] at hcond
        obtain ⟨hlength, hhyphen⟩ := hcond
        obtain ⟨rest, hrest, rfl⟩ := Option.map_eq_some_iff.1 h
        have htext : text.take n ++ '-' :: text.drop (n + 1) = text := by
          obtain ⟨hn, hget⟩ := List.getElem?_eq_some_iff.1 hhyphen
          rw [← hget, ← List.drop_eq_getElem_cons hn, List.take_append_drop]
        have hgrouped := Grouped.more hlength (ih nofun hrest)
        rwa [htext] at hgrouped
      · cases h

theorem Grouped.ne_nil (h : Grouped ns cs text) : ns ≠ [] := by
  cases h <;> nofun

theorem Grouped.unhyphenate? (h : Grouped ns cs text) : unhyphenate? ns text = some cs := by
  induction h with
  | last hlength => simp [Uuid.unhyphenate?, hlength]
  | @more n ns group cs text hlength hrest ih =>
    subst hlength
    have hdrop : (group ++ '-' :: text).drop (group.length + 1) = text := by
      rw [List.drop_append]
      simp
    obtain ⟨m, ms, rfl⟩ := List.exists_cons_of_ne_nil hrest.ne_nil
    simp [Uuid.unhyphenate?, hdrop, ih]

theorem unhyphenate?_eq_some_iff (hns : ns ≠ []) : unhyphenate? ns text = some cs ↔ Grouped ns cs text :=
  ⟨grouped_of_unhyphenate? hns, Grouped.unhyphenate?⟩

theorem Grouped.length_add (h : Grouped ns cs text) : text.length + 1 = cs.length + ns.length := by
  induction h with
  | last => rfl
  | more _ _ ih =>
    simp only [List.length_append, List.length_cons]
    omega

theorem Grouped.mem (h : Grouped ns cs text) : ∀ c ∈ text, c = '-' ∨ c ∈ cs := by
  induction h with
  | last => exact fun c hc => .inr hc
  | more _ _ ih =>
    intro c hc
    rw [List.mem_append, List.mem_cons] at hc
    rcases hc with hc | rfl | hc
    · exact .inr (List.mem_append_left _ hc)
    · exact .inl rfl
    · exact (ih c hc).imp_right (List.mem_append_right _)

/-- A text begins with its first group. -/
theorem Grouped.head? {n : Nat} (h : Grouped ((n + 1) :: ns) cs text) : text.head? = cs.head? := by
  cases h with
  | last => rfl
  | more hlength =>
    obtain ⟨c, rest, rfl⟩ := List.exists_cons_of_length_eq_add_one hlength
    rfl

theorem Grouped.hyphenate (h : Grouped ns cs text) : hyphenate ns cs = text := by
  induction h with
  | last => rfl
  | @more n ns group cs text hlength hrest ih =>
    subst hlength
    obtain ⟨m, ms, rfl⟩ := List.exists_cons_of_ne_nil hrest.ne_nil
    simp [Uuid.hyphenate, ih]

theorem grouped_hyphenate (hns : ns ≠ []) (h : cs.length = ns.foldr (· + ·) 0) :
    Grouped ns cs (hyphenate ns cs) := by
  induction ns generalizing cs with
  | nil => exact absurd rfl hns
  | cons n ns ih =>
    rw [List.foldr_cons] at h
    cases ns with
    | nil => exact .last (by simpa using h)
    | cons m ns =>
      have hgroup : (cs.take n).length = n := by
        rw [List.length_take]
        omega
      have hrest : (cs.drop n).length = (m :: ns).foldr (· + ·) 0 := by
        rw [List.length_drop]
        omega
      have hgrouped := Grouped.more hgroup (ih nofun hrest)
      rwa [List.take_append_drop] at hgrouped

theorem ofHyphenated?_eq_some_iff : ofHyphenated? text = some u ↔ Hyphenated Writes u text := by
  have hgroups : ∀ cs, unhyphenate? groups text = some cs ↔ Grouped [8, 4, 4, 4, 12] cs text :=
    fun cs => unhyphenate?_eq_some_iff nofun
  unfold ofHyphenated? Hyphenated
  simp only [Option.bind_eq_some_iff, ofDigits?_eq_some_iff, hgroups]
  exact exists_congr fun cs => And.comm

end Groups

/-! ## Reading -/

section Reading

variable {u v : Uuid} {W : Fin 16 → Char → Prop} {word text : List Char}

/-- Digits begin with a digit. -/
theorem exists_head_of_forall₂ (h : List.Forall₂ W u.digits text) : ∃ d c, text.head? = some c ∧ W d c := by
  obtain ⟨d, ds, hdigits⟩ := List.exists_cons_of_length_eq_add_one u.length_digits
  rw [hdigits] at h
  cases h with
  | cons hwrites => exact ⟨_, _, rfl, hwrites⟩

theorem Hyphenated.exists_head (h : Hyphenated W u text) : ∃ d c, text.head? = some c ∧ W d c := by
  obtain ⟨cs, hdigits, hgroups⟩ := h
  obtain ⟨d, c, hhead, hwrites⟩ := exists_head_of_forall₂ hdigits
  exact ⟨d, c, hgroups.head?.trans hhead, hwrites⟩

theorem Hyphenated.length (h : Hyphenated W u text) : text.length = 36 := by
  obtain ⟨cs, hdigits, hgroups⟩ := h
  have hlength := hgroups.length_add
  rw [← hdigits.length_eq, u.length_digits] at hlength
  exact Nat.succ.inj hlength

/-- What begins with a digit has neither braces nor a word. -/
theorem parse?_of_digit {d : Fin 16} {c : Char} (hhead : text.head? = some c) (h : Writes d c) :
    parse? text = if text.length = 32 then ofDigits? text else ofHyphenated? text := by
  have hdigits : (lowerDigits ++ upperDigits).all fun c => c ≠ '\x7b' ∧ c.toLower ≠ 'u' := by decide
  obtain ⟨hbrace, hword⟩ := of_decide_eq_true (List.all_eq_true.1 hdigits c (mem_digits_of_writes h))
  obtain ⟨rest, rfl⟩ := List.head?_eq_some_iff.1 hhead
  unfold parse?
  split
  · next hcons => exact absurd (List.cons.inj hcons).1 hbrace
  · refine if_neg fun htake => hword ?_
    exact (List.cons.inj htake).1

theorem parse?_word (h : word.map Char.toLower = urn) : parse? (word ++ text) = ofHyphenated? text := by
  have hlength : word.length = urn.length := by rw [← h, List.length_map]
  have htake : (word ++ text).take urn.length = word := by rw [← hlength, List.take_left]
  have hdrop : (word ++ text).drop urn.length = text := by rw [← hlength, List.drop_left]
  unfold parse?
  split
  · next inner hbrace =>
    rw [hbrace] at htake
    rw [← htake] at h
    exact absurd (List.cons.inj h).1 (by decide)
  · rw [htake, hdrop, if_pos h]

theorem parse?_of_spelledBy (h : u.SpelledBy text) : parse? text = some u := by
  cases h with
  | hyphenated h =>
    obtain ⟨d, c, hhead, hwrites⟩ := h.exists_head
    rw [parse?_of_digit hhead hwrites, if_neg (by rw [h.length]; decide)]
    exact ofHyphenated?_eq_some_iff.2 h
  | plain h =>
    obtain ⟨d, c, hhead, hwrites⟩ := exists_head_of_forall₂ h
    rw [parse?_of_digit hhead hwrites, if_pos (h.length_eq.symm.trans u.length_digits)]
    exact ofDigits?_eq_some_iff.2 h
  | braced h =>
    unfold parse?
    simpa using ofHyphenated?_eq_some_iff.2 h
  | urn hword h =>
    rw [parse?_word hword]
    exact ofHyphenated?_eq_some_iff.2 h

theorem spelledBy_of_parse? (h : parse? text = some u) : u.SpelledBy text := by
  unfold parse? at h
  split at h
  · next inner =>
    split at h
    · next hlast =>
      have hinner : inner.dropLast ++ ['\x7d'] = inner := List.dropLast_append_getLast? _ hlast
      rw [← hinner]
      exact .braced (ofHyphenated?_eq_some_iff.1 h)
    · cases h
  · split at h
    · next hword =>
      rw [← List.take_append_drop urn.length text]
      exact .urn hword (ofHyphenated?_eq_some_iff.1 h)
    · split at h
      · exact .plain (ofDigits?_eq_some_iff.1 h)
      · exact .hyphenated (ofHyphenated?_eq_some_iff.1 h)

/-- A text is read as an identifier if it spells it. -/
theorem parse?_eq_some_iff : parse? text = some u ↔ u.SpelledBy text :=
  ⟨spelledBy_of_parse?, parse?_of_spelledBy⟩

theorem SpelledBy.unique (h : u.SpelledBy text) (h' : v.SpelledBy text) : u = v :=
  Option.some.inj ((parse?_of_spelledBy h).symm.trans (parse?_of_spelledBy h'))

end Reading

/-! ## Characters -/

section Characters

variable {u : Uuid} {c : Char} {text : List Char}

/-- A character of ASCII that is neither a blank nor a control. -/
def IsGraphic (c : Char) : Prop := '!' ≤ c ∧ c ≤ '~'

instance (c : Char) : Decidable (IsGraphic c) := by
  unfold IsGraphic
  infer_instance

theorem isGraphic_of_toLower (h : IsGraphic c.toLower) : IsGraphic c := by
  unfold Char.toLower at h
  split at h
  · next hupper => exact ⟨Nat.le_trans (by decide) hupper.1, Nat.le_trans hupper.2 (by decide)⟩
  · exact h

theorem isGraphic_of_forall₂ (h : List.Forall₂ Writes u.digits text) : ∀ c ∈ text, IsGraphic c := by
  have hdigits : (lowerDigits ++ upperDigits).all fun c => IsGraphic c := by decide
  intro c hc
  obtain ⟨d, -, hwrites⟩ := exists_of_forall₂ h.flip hc
  exact of_decide_eq_true (List.all_eq_true.1 hdigits c (mem_digits_of_writes hwrites))

theorem Hyphenated.isGraphic (h : Hyphenated Writes u text) : ∀ c ∈ text, IsGraphic c := by
  obtain ⟨cs, hdigits, hgroups⟩ := h
  intro c hc
  rcases hgroups.mem c hc with rfl | hc
  · decide
  · exact isGraphic_of_forall₂ hdigits c hc

theorem SpelledBy.isGraphic (h : u.SpelledBy text) : ∀ c ∈ text, IsGraphic c := by
  intro c hc
  cases h with
  | hyphenated h => exact h.isGraphic c hc
  | plain h => exact isGraphic_of_forall₂ h c hc
  | braced h =>
    rw [List.mem_cons, List.mem_append, List.mem_singleton] at hc
    rcases hc with rfl | hc | rfl
    · decide
    · exact h.isGraphic c hc
    · decide
  | urn hword h =>
    rcases List.mem_append.1 hc with hc | hc
    · have hlower : c.toLower ∈ "urn:uuid:".toList := hword ▸ List.mem_map_of_mem hc
      have hletters : "urn:uuid:".toList.all fun c => IsGraphic c := by decide
      exact isGraphic_of_toLower (of_decide_eq_true (List.all_eq_true.1 hletters _ hlower))
    · exact h.isGraphic c hc

theorem SpelledBy.ne_nil (h : u.SpelledBy text) : text ≠ [] := by
  rintro rfl
  have hnone : parse? [] = none := by decide
  cases hnone.symm.trans (parse?_of_spelledBy h)

theorem isBlank_of_isGraphic (h : IsGraphic c) : isBlank c = false := by
  have hlow : 33 ≤ c.toNat := h.1
  have hhigh : c.toNat ≤ 126 := h.2
  simp only [isBlank, Bool.or_eq_false_iff, Bool.and_eq_false_iff, decide_eq_false_iff_not, beq_eq_false_iff_ne]
  omega

/-- A spelling has no blanks, so nothing of it is trimmed. -/
theorem SpelledBy.trimmed (h : u.SpelledBy text) : Trimmed text :=
  ⟨fun c hc => isBlank_of_isGraphic (h.isGraphic c (List.mem_of_head? hc)),
    fun c hc => isBlank_of_isGraphic (h.isGraphic c (List.mem_of_getLast? hc))⟩

end Characters

/-! ## The canonical form -/

section Canonical

variable {u v : Uuid} {text : String}

theorem writesLower_iff {d : Fin 16} {c : Char} : WritesLower d c ↔ c = hexDigit d.val := by
  have hdigits : ∀ d : Fin 16, lowerDigits[d.val]? = some (hexDigit d.val) := by decide
  unfold WritesLower
  rw [hdigits, Option.some.injEq, eq_comm]

/-- The digits in lower case are all that a canonical form may hold between its hyphens. -/
theorem forall₂_writesLower_iff {ds : List (Fin 16)} {cs : List Char} :
    List.Forall₂ WritesLower ds cs ↔ cs = ds.map fun d => hexDigit d.val := by
  induction ds generalizing cs with
  | nil => cases cs <;> simp
  | cons d ds ih => cases cs <;> simp [ih, writesLower_iff]

theorem toList_text (u : Uuid) : u.text.toList = u.chars := String.toList_ofList

/-- The canonical form is the only one. -/
theorem canonical_iff : u.Canonical text ↔ text = u.text := by
  unfold Canonical Hyphenated
  rw [← String.toList_inj, toList_text]
  constructor
  · rintro ⟨cs, hdigits, hgroups⟩
    rw [forall₂_writesLower_iff.1 hdigits] at hgroups
    exact hgroups.hyphenate.symm
  · intro h
    refine ⟨_, forall₂_writesLower_iff.2 rfl, ?_⟩
    rw [h]
    refine grouped_hyphenate nofun ?_
    rw [List.length_map, u.length_digits]
    rfl

theorem Canonical.spelledBy (h : u.Canonical text) : u.SpelledBy text.toList := by
  obtain ⟨cs, hdigits, hgroups⟩ := h
  exact .hyphenated ⟨cs, hdigits.imp fun _ _ => .inl, hgroups⟩

theorem spelledBy_text (u : Uuid) : u.SpelledBy u.text.toList := (canonical_iff.2 rfl).spelledBy

/-- Different identifiers have different canonical forms. -/
theorem text_injective : Function.Injective Uuid.text := by
  intro u v h
  have hspelled := spelledBy_text u
  rw [h] at hspelled
  exact hspelled.unique (spelledBy_text v)

end Canonical

end BoxOffice.Uuid
