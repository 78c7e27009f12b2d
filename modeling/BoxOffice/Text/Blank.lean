/-!
# Blank characters

The characters with the White_Space property, and the two ways this library uses them:

1. `trim` cuts blanks from both ends of a text (`Trimmed (trim s)`, and `trim s` is the identity on
   a text that is `Trimmed`). Blanks that are put around a text make no difference to it
   (`trimChars_padded`).
2. `dropBlanks` skips leading blanks while a timestamp is read.
-/

namespace BoxOffice.Text

/-- The White_Space property: tab to carriage return, the space, and the blanks beyond ASCII. -/
def isBlank (c : Char) : Bool :=
  let n := c.toNat
  (0x09 ≤ n && n ≤ 0x0D) || n == 0x20 || n == 0x85 || n == 0xA0 || n == 0x1680 ||
    (0x2000 ≤ n && n ≤ 0x200A) || n == 0x2028 || n == 0x2029 || n == 0x202F || n == 0x205F ||
    n == 0x3000

/-- A list of characters without its leading blanks. -/
def dropBlanks (cs : List Char) : List Char := cs.dropWhile isBlank

/-- A list of characters without its leading and trailing blanks. -/
def trimChars (cs : List Char) : List Char :=
  (dropBlanks (dropBlanks cs).reverse).reverse

/-- A text without its leading and trailing blanks. -/
def trim (s : String) : String := String.ofList (trimChars s.toList)

@[simp] theorem toList_trim (s : String) : (trim s).toList = trimChars s.toList := by
  simp [trim]

/-- Neither the first nor the last character is blank. -/
def Trimmed (cs : List Char) : Prop :=
  (∀ c ∈ cs.head?, isBlank c = false) ∧ (∀ c ∈ cs.getLast?, isBlank c = false)

instance (cs : List Char) : Decidable (Trimmed cs) := by
  unfold Trimmed
  cases cs.head? <;> cases cs.getLast? <;> simp <;> infer_instance

theorem trimmed_of_ends {cs : List Char} {first last : Char} (hfirst : cs.head? = some first)
    (hlast : cs.getLast? = some last) (h : isBlank first = false) (h' : isBlank last = false) :
    Trimmed cs := by
  unfold Trimmed
  rw [hfirst, hlast]
  exact ⟨by rintro _ ⟨⟩; exact h, by rintro _ ⟨⟩; exact h'⟩

theorem dropBlanks_eq_self {cs : List Char} (h : ∀ c ∈ cs.head?, isBlank c = false) :
    dropBlanks cs = cs := by
  cases cs with
  | nil => rfl
  | cons c cs => simp [dropBlanks, h c (by simp)]

theorem head?_dropBlanks (cs : List Char) : ∀ c ∈ (dropBlanks cs).head?, isBlank c = false := by
  induction cs with
  | nil => simp [dropBlanks]
  | cons c cs ih =>
    by_cases hc : isBlank c
    · simpa [dropBlanks, hc] using ih
    · simp [dropBlanks, hc]

theorem trimChars_eq_self {cs : List Char} (h : Trimmed cs) : trimChars cs = cs := by
  unfold trimChars
  rw [dropBlanks_eq_self h.1, dropBlanks_eq_self (by simpa using h.2), List.reverse_reverse]

theorem exists_eq_append_dropBlanks (cs : List Char) :
    ∃ u, cs = u ++ dropBlanks cs ∧ ∀ c ∈ u, isBlank c = true :=
  ⟨cs.takeWhile isBlank, (List.takeWhile_append_dropWhile).symm,
    List.all_eq_true.1 List.all_takeWhile⟩

/-- Trimming removes blanks at both ends and nothing else. -/
theorem exists_eq_append_trimChars (cs : List Char) :
    ∃ u v, cs = u ++ trimChars cs ++ v ∧ (∀ c ∈ u, isBlank c = true) ∧
      ∀ c ∈ v, isBlank c = true := by
  obtain ⟨u, hu, hub⟩ := exists_eq_append_dropBlanks cs
  obtain ⟨w, hw, hwb⟩ := exists_eq_append_dropBlanks (dropBlanks cs).reverse
  refine ⟨u, w.reverse, ?_, hub, by simpa using hwb⟩
  have h := congrArg List.reverse hw
  rw [List.reverse_reverse, List.reverse_append] at h
  rw [List.append_assoc, trimChars, ← h]
  exact hu

theorem trimmed_trimChars (cs : List Char) : Trimmed (trimChars cs) := by
  have last : ∀ c ∈ (trimChars cs).getLast?, isBlank c = false := by
    simpa [trimChars] using head?_dropBlanks (dropBlanks cs).reverse
  refine ⟨fun c hc => ?_, last⟩
  obtain ⟨w, hw, -⟩ := exists_eq_append_dropBlanks (dropBlanks cs).reverse
  have h := congrArg List.reverse hw
  rw [List.reverse_reverse, List.reverse_append] at h
  apply head?_dropBlanks cs
  rw [h]
  have : (trimChars cs).head? = some c := by simpa using hc
  unfold trimChars at this
  simp [this]

@[simp] theorem trimChars_trimChars (cs : List Char) : trimChars (trimChars cs) = trimChars cs :=
  trimChars_eq_self (trimmed_trimChars cs)

/-- Nothing is left of blanks alone. -/
theorem trimChars_eq_nil_iff {cs : List Char} : trimChars cs = [] ↔ ∀ c ∈ cs, isBlank c = true := by
  constructor
  · intro h c hc
    obtain ⟨u, v, hcs, hu, hv⟩ := exists_eq_append_trimChars cs
    rw [hcs, h, List.append_nil, List.mem_append] at hc
    exact hc.elim (hu c) (hv c)
  · intro h
    have hdrop : dropBlanks cs = [] := by
      rw [dropBlanks, ← List.append_nil cs, List.dropWhile_append_of_pos h]
      rfl
    rw [trimChars, hdrop]
    rfl

@[simp] theorem trim_trim (s : String) : trim (trim s) = trim s := by
  rw [← String.toList_inj, toList_trim, toList_trim, trimChars_trimChars]

theorem trim_eq_empty_iff {s : String} : trim s = "" ↔ ∀ c ∈ s.toList, isBlank c = true := by
  rw [← trimChars_eq_nil_iff, ← String.toList_inj, toList_trim]
  rfl

section Padded

variable {before cs after : List Char} (hbefore : ∀ c ∈ before, isBlank c = true)
  (hafter : ∀ c ∈ after, isBlank c = true)

include hbefore

theorem dropBlanks_append_of_blank : dropBlanks (before ++ cs) = dropBlanks cs :=
  List.dropWhile_append_of_pos hbefore

include hafter

/-- A trimmed text is what is left of it between blanks. -/
theorem trimChars_padded_of_trimmed (hne : cs ≠ []) (h : Trimmed cs) :
    trimChars (before ++ cs ++ after) = cs := by
  have hfront : dropBlanks (before ++ (cs ++ after)) = cs ++ after := by
    rw [dropBlanks_append_of_blank hbefore]
    apply dropBlanks_eq_self
    obtain ⟨c, rest, rfl⟩ := List.exists_cons_of_ne_nil hne
    exact h.1
  have hback : dropBlanks (cs ++ after).reverse = cs.reverse := by
    have hblank : ∀ c ∈ after.reverse, isBlank c = true := fun c hc => hafter c (List.mem_reverse.1 hc)
    rw [List.reverse_append, dropBlanks_append_of_blank hblank]
    apply dropBlanks_eq_self
    rw [List.head?_reverse]
    exact h.2
  rw [trimChars, List.append_assoc, hfront, hback, List.reverse_reverse]

/-- Blanks around a text are cut off with its own. -/
theorem trimChars_padded : trimChars (before ++ cs ++ after) = trimChars cs := by
  by_cases hnil : trimChars cs = []
  · have hcs := trimChars_eq_nil_iff.1 hnil
    rw [hnil, trimChars_eq_nil_iff]
    intro c hc
    rw [List.mem_append, List.mem_append] at hc
    exact hc.elim (fun hc => hc.elim (hbefore c) (hcs c)) (hafter c)
  · obtain ⟨u, v, hcs, hu, hv⟩ := exists_eq_append_trimChars cs
    have hsplit : before ++ cs ++ after = (before ++ u) ++ trimChars cs ++ (v ++ after) :=
      calc before ++ cs ++ after = before ++ (u ++ trimChars cs ++ v) ++ after := by rw [← hcs]
        _ = (before ++ u) ++ trimChars cs ++ (v ++ after) := by simp only [List.append_assoc]
    rw [hsplit]
    refine trimChars_padded_of_trimmed ?_ ?_ hnil (trimmed_trimChars cs)
    · exact fun c hc => (List.mem_append.1 hc).elim (hbefore c) (hu c)
    · exact fun c hc => (List.mem_append.1 hc).elim (hv c) (hafter c)

end Padded

end BoxOffice.Text
