import BoxOffice.Proofs.Json.Syntax
import BoxOffice.Proofs.Text.ByteOrder
import BoxOffice.Proofs.Ticket.Spelling
import BoxOffice.Proofs.Ticket.Wire

/-!
# Identifiers in normal form

Which texts stand for identifiers, for which ones, and how identifiers are ordered.

1. One text at most stands in a text between the blanks at its ends (`Between`), and it is the text of the
   identifier that is read (`parse_eq_ok_iff_between`). A text of blanks alone is refused, and texts that differ
   in the blanks at their ends are read alike (`parse_eq_parse_iff`). Blanks are the characters of `whiteSpace`.
2. However a text comes to be read, as a stretch of another one or as a JSON string, the same is made of it
   (`ReadAs`). From JSON nothing but a string is read (`decode_ofBytes_eq_ok_iff`).
3. So the identifiers that can be made are those of the texts without blanks at their ends (`exists_made_iff`),
   and the text of an identifier is read as that identifier again.
4. Identifiers are ordered as the bytes of their texts are, which is a total order (`OrderedByBytes`).
-/

namespace BoxOffice

open BoxOffice.Json BoxOffice.Text

/-! ## Between blanks -/

/-- The code points with the White_Space property. -/
def whiteSpace : List Nat :=
  [0x9, 0xA, 0xB, 0xC, 0xD, 0x20, 0x85, 0xA0, 0x1680, 0x2000, 0x2001, 0x2002, 0x2003, 0x2004, 0x2005, 0x2006, 0x2007,
    0x2008, 0x2009, 0x200A, 0x2028, 0x2029, 0x202F, 0x205F, 0x3000]

/-- The blanks are the characters with the White_Space property. -/
theorem isBlank_iff_mem_whiteSpace {c : Char} : isBlank c = true ↔ c.toNat ∈ whiteSpace := by
  simp only [isBlank, whiteSpace, Bool.or_eq_true, Bool.and_eq_true, decide_eq_true_eq, beq_iff_eq, List.mem_cons,
    List.not_mem_nil, or_false]
  omega

/-- `t` stands in `s` between blanks: it is not empty and neither begins nor ends with a blank, and all that is
before and behind it is blank. -/
structure Between (s t : String) : Prop where
  ne_empty : t ≠ ""
  trimmed : Trimmed t.toList
  around : ∃ u v : String, s = u ++ t ++ v ∧ (∀ c ∈ u.toList, isBlank c = true) ∧
    ∀ c ∈ v.toList, isBlank c = true

section Blanks

variable {s t t' : String}

/-- What stands between blanks is what is left when blanks are cut off. -/
theorem Between.trim_eq (h : Between s t) : trim s = t := by
  obtain ⟨u, v, rfl, hu, hv⟩ := h.around
  rw [← String.toList_inj, toList_trim, String.toList_append, String.toList_append]
  exact trimChars_padded_of_trimmed hu hv (mt String.toList_eq_nil_iff.1 h.ne_empty) h.trimmed

theorem between_trim (hne : trim s ≠ "") : Between s (trim s) := by
  obtain ⟨u, v, hsplit, hu, hv⟩ := exists_eq_append_trimChars s.toList
  refine ⟨hne, ?_, String.ofList u, String.ofList v, ?_, by simpa using hu, by simpa using hv⟩
  · rw [toList_trim]
    exact trimmed_trimChars s.toList
  · rw [← String.toList_inj]
    simpa using hsplit

theorem Between.unique (h : Between s t) (h' : Between s t') : t = t' := h.trim_eq.symm.trans h'.trim_eq

/-- A text without blanks at its ends stands in itself. -/
theorem between_self (hne : t ≠ "") (h : Trimmed t.toList) : Between t t :=
  ⟨hne, h, "", "", by simp, by simp, by simp⟩

end Blanks

namespace Id

variable {kind : IdKind} {s s' t : String} {a b : Id kind}

/-! ## Reading a text -/

/-- The text of the identifier that is read is what stands between the blanks. -/
theorem parse_eq_ok_iff_between : parse kind s = .ok a ↔ Between s a.text := by
  rw [parse_eq_ok_iff]
  constructor
  · intro h
    have hne : trim s ≠ "" := h ▸ mt String.toList_eq_nil_iff.2 a.ne_nil
    rw [h]
    exact between_trim hne
  · exact fun h => h.trim_eq.symm

/-- A text is read if it has a character that is not blank. -/
theorem exists_parse_iff : (∃ a, parse kind s = .ok a) ↔ ∃ c ∈ s.toList, isBlank c = false := by
  simp only [parse_eq_ok_iff]
  exact exists_text_eq_trim_iff

/-- A text is refused if it has none, with the name under which it is given. -/
theorem parse_eq_error_iff {e : TicketError} :
    parse kind s = .error e ↔
      (∀ c ∈ s.toList, isBlank c = true) ∧ e = .validation (kind.name ++ " is required") := by
  unfold parse
  rw [← trimChars_eq_nil_iff]
  split
  · next hnil => simp [hnil, eq_comm]
  · next hne => simp [hne]

/-- Blanks at the ends make no difference. -/
theorem parse_trim : parse kind (trim s) = parse kind s := by
  simp only [parse, toList_trim, trimChars_trimChars, trim_trim]

theorem eq_iff_trim_eq (h : parse kind s = .ok a) (h' : parse kind s' = .ok b) :
    a = b ↔ trim s = trim s' := by
  rw [parse_eq_ok_iff] at h h'
  rw [← h, ← h']
  exact ⟨fun hab => congrArg text hab, ext_text⟩

/-- Two texts are read alike if they are the same without the blanks at their ends. -/
theorem parse_eq_parse_iff : parse kind s = parse kind s' ↔ trim s = trim s' := by
  constructor
  · intro h
    cases hs : parse kind s with
    | ok a => exact (eq_iff_trim_eq hs (h ▸ hs)).1 rfl
    | error e =>
      have hs' : parse kind s' = .error e := h ▸ hs
      rw [trim_eq_empty_iff.2 (parse_eq_error_iff.1 hs).1, trim_eq_empty_iff.2 (parse_eq_error_iff.1 hs').1]
  · intro h
    rw [← parse_trim, h, parse_trim]

/-! ## Reading JSON -/

/-- An identifier is read from no other node than that of a string. -/
theorem id_node_eq_ok_iff {n : Node} :
    n.id kind = .ok a ↔ ∃ s, n = .string (.ok s) ∧ parse kind s = .ok a := by
  have htext : ∀ s, n.text = .ok s ↔ n = .string (.ok s) := by
    intro s
    unfold Node.text Node.textAs
    split <;> simp_all
  unfold Node.id
  simp only [bind_eq_ok_iff, mapError_eq_ok_iff, htext]

/-- A string stays as it is when a value is put in order, and nothing else becomes one. -/
theorem eq_string_of_ordered {v : Value} (h : v.ordered = .string s) : v = .string s := by
  cases v with
  | string s' => exact h
  | null => cases h
  | bool b => cases h
  | number n => cases h
  | array items => cases h
  | object ms => cases h

section Bytes

variable {bytes : List UInt8}

/-- Of a JSON text of a string the same is made as of the string. -/
theorem decode_ofBytes_of_jsonText (h : JsonText bytes (.string s)) :
    (Reading.ofBytes bytes).decode (Node.id kind) = (parse kind s).mapError .refusedId := by
  rw [Reading.ofBytes_of_jsonText h]
  show ((parse kind s).mapError DecodeError.refusedId >>= fun a => .ok a) = _
  cases parse kind s <;> rfl

/-- An identifier is read from a JSON text of a string that it is read from, and from no other bytes. -/
theorem decode_ofBytes_eq_ok_iff :
    (Reading.ofBytes bytes).decode (Node.id kind) = .ok a ↔
      ∃ s, JsonText bytes (.string s) ∧ parse kind s = .ok a := by
  constructor
  · intro h
    obtain ⟨hid, htrailing⟩ := Reading.decode_eq_ok_iff.1 h
    obtain ⟨s, hnode, hparse⟩ := id_node_eq_ok_iff.1 hid
    have hvalue : Value.ofBytes bytes = .ok (.string s) := by
      unfold Value.ofBytes Reading.value
      rw [hnode, htrailing]
      rfl
    obtain ⟨v, htext, hordered⟩ := Value.ofBytes_eq_ok_iff.1 hvalue
    obtain rfl := eq_string_of_ordered hordered.symm
    exact ⟨s, htext, hparse⟩
  · rintro ⟨s, htext, hparse⟩
    rw [decode_ofBytes_of_jsonText htext, hparse]
    rfl

end Bytes

/-- What is made of a text, in whichever way it comes to be read. -/
structure ReadAs (kind : IdKind) (s : String) : Prop where
  accepted_iff : (∃ a, parse kind s = .ok a) ↔ ∃ c ∈ s.toList, isBlank c = false
  refused_iff : ∀ e, parse kind s = .error e ↔
    (∀ c ∈ s.toList, isBlank c = true) ∧ e = .validation (kind.name ++ " is required")
  text_iff : ∀ a, parse kind s = .ok a ↔ Between s a.text
  unique : ∀ t t', Between s t → Between s t' → t = t'
  equal_iff : ∀ s' a b, parse kind s = .ok a → parse kind s' = .ok b → (a = b ↔ trim s = trim s')
  alike_iff : ∀ s', parse kind s = parse kind s' ↔ trim s = trim s'
  ofSlice : ∀ stretch : String.Slice, stretch.copy = s → ofSlice kind stretch = parse kind s
  ofString : ofString kind s = parse kind s
  parseOption : parseOption kind (some s) = parse kind s
  inMemory : (Node.ofValue (.string s)).id kind = (parse kind s).mapError .refusedId
  inBytes : ∀ bytes, JsonText bytes (.string s) →
    (Reading.ofBytes bytes).decode (Node.id kind) = (parse kind s).mapError .refusedId
  inText : ∀ text, JsonText (Utf8.encode text) (.string s) →
    (Reading.ofText text).decode (Node.id kind) = (parse kind s).mapError .refusedId
  printed : JsonText (Utf8.encode (Value.string s).text) (.string s)

theorem readAs (kind : IdKind) (s : String) : ReadAs kind s where
  accepted_iff := exists_parse_iff
  refused_iff _ := parse_eq_error_iff
  text_iff _ := parse_eq_ok_iff_between
  unique _ _ h h' := h.unique h'
  equal_iff _ _ _ h h' := eq_iff_trim_eq h h'
  alike_iff _ := parse_eq_parse_iff
  ofSlice := by
    rintro stretch rfl
    rfl
  ofString := rfl
  parseOption := rfl
  inMemory := rfl
  inBytes _ h := decode_ofBytes_of_jsonText h
  inText text h := by
    rw [← Reading.ofBytes_encode]
    exact decode_ofBytes_of_jsonText h
  printed := jsonText_text rfl (Nat.zero_le _)

/-! ## Identifiers -/

/-- The ways to an identifier: a text is read, a stretch of one, one that is turned into it or one that may be
missing, or a part of a JSON value or a whole JSON text is decoded. -/
inductive Made (a : Id kind) : Prop
  | parsed {s : String} : parse kind s = .ok a → Made a
  | ofSlice {stretch : String.Slice} : ofSlice kind stretch = .ok a → Made a
  | ofString {s : String} : ofString kind s = .ok a → Made a
  | parsedOption {s : Option String} : parseOption kind s = .ok a → Made a
  | decoded {n : Node} : n.id kind = .ok a → Made a
  | read {r : Reading} : r.decode (Node.id kind) = .ok a → Made a

/-- However an identifier is made, it is read from some text. -/
theorem Made.exists_parse (h : Made a) : ∃ s, parse kind s = .ok a := by
  have hnode : ∀ {n : Node}, n.id kind = .ok a → ∃ s, parse kind s = .ok a := by
    intro n hid
    obtain ⟨s, -, hparse⟩ := id_node_eq_ok_iff.1 hid
    exact ⟨s, hparse⟩
  cases h with
  | parsed h => exact ⟨_, h⟩
  | ofSlice h => exact ⟨_, h⟩
  | ofString h => exact ⟨_, h⟩
  | parsedOption h => exact ⟨_, h⟩
  | decoded h => exact hnode h
  | read h => exact hnode (Reading.decode_eq_ok_iff.1 h).1

/-- The texts of the identifiers that are made are those that neither begin nor end with a blank. -/
theorem exists_made_iff : (∃ a : Id kind, Made a ∧ a.text = t) ↔ t ≠ "" ∧ Trimmed t.toList := by
  constructor
  · rintro ⟨a, hmade, rfl⟩
    obtain ⟨s, hparse⟩ := hmade.exists_parse
    have hbetween := parse_eq_ok_iff_between.1 hparse
    exact ⟨hbetween.ne_empty, hbetween.trimmed⟩
  · rintro ⟨hne, htrimmed⟩
    have ha : parse kind t = .ok ⟨t, mt String.toList_eq_nil_iff.1 hne, htrimmed⟩ :=
      parse_eq_ok_iff_between.2 (between_self hne htrimmed)
    exact ⟨_, .parsed ha, rfl⟩

/-- The text of an identifier is read as that identifier, as it is and as a JSON string. -/
theorem readsBack (a : Id kind) : ReadsBack (fun a => .string a.text) (Node.id kind) a :=
  readsBack_of_decode rfl (Nat.zero_le _) (plainReading_textNode.id a)

/-! ## Order -/

theorem order_eq_compare_encode (a b : Id kind) :
    a.order b = compare (Utf8.encode a.text) (Utf8.encode b.text) := (Utf8.compare_encode a.text b.text).symm

instance : Std.TransCmp (@order kind) where
  eq_swap := Std.OrientedOrd.eq_swap
  isLE_trans := Std.TransOrd.isLE_trans

instance : Std.LawfulEqCmp (@order kind) where
  compare_self := Std.compare_self
  eq_of_compare h := ext_text (Std.LawfulEqOrd.eq_of_compare h)

/-- Identifiers are ordered as the bytes of their texts are. Any two are in order one way round at least, and both
ways round only if they are equal. -/
structure OrderedByBytes (kind : IdKind) : Prop where
  bytes : ∀ a b : Id kind, a.order b = compare (Utf8.encode a.text) (Utf8.encode b.text)
  equal_iff : ∀ a b : Id kind, a.order b = .eq ↔ a = b
  swap : ∀ a b : Id kind, a.order b = (b.order a).swap
  total : ∀ a b : Id kind, (a.order b).isLE = true ∨ (b.order a).isLE = true
  trans : ∀ a b c : Id kind, (a.order b).isLE = true → (b.order c).isLE = true → (a.order c).isLE = true

theorem orderedByBytes (kind : IdKind) : OrderedByBytes kind where
  bytes := order_eq_compare_encode
  equal_iff _ _ := Std.LawfulEqCmp.compare_eq_iff_eq
  swap _ _ := Std.OrientedCmp.eq_swap
  total a b := by
    have hswap : a.order b = (b.order a).swap := Std.OrientedCmp.eq_swap
    rw [hswap]
    cases b.order a <;> simp
  trans _ _ _ := Std.TransCmp.isLE_trans

/-! ## Normal form -/

/-- What texts stand for identifiers, which identifiers there are, and how they are ordered. -/
structure NormalForm (kind : IdKind) : Prop where
  reading : ∀ s, ReadAs kind s
  decoding : ∀ bytes a, (Reading.ofBytes bytes).decode (Node.id kind) = .ok a ↔
    ∃ s, JsonText bytes (.string s) ∧ parse kind s = .ok a
  made_iff : ∀ t, (∃ a : Id kind, Made a ∧ a.text = t) ↔ t ≠ "" ∧ Trimmed t.toList
  again : ∀ a : Id kind, parse kind a.text = .ok a
  readsBack : ∀ a : Id kind, ReadsBack (fun a => .string a.text) (Node.id kind) a
  order : OrderedByBytes kind

end Id

/-- The identifiers of a request are those that stand in its two texts. -/
theorem AvailabilityRequest.parse_eq_ok_iff {countryCode eventId : Option String} {r : AvailabilityRequest} :
    parse countryCode eventId = .ok r ↔
      Between (countryCode.getD "") r.countryCode.text ∧ Between (eventId.getD "") r.eventId.text := by
  unfold parse Id.parseOption
  simp only [bind_eq_ok_iff, ← Id.parse_eq_ok_iff_between]
  constructor
  · rintro ⟨c, hc, e, he, ⟨⟩⟩
    exact ⟨hc, he⟩
  · rintro ⟨hc, he⟩
    exact ⟨r.countryCode, hc, r.eventId, he, rfl⟩

/-- Of every kind of identifier: what is read of a text, in whichever way, is what stands in it between blanks; no
identifier has other texts, and each is read again from its own; and identifiers are ordered by the bytes of
their texts. The two identifiers of a request are read in the same way. A blank is a character with the
White_Space property. -/
theorem identifiers_in_normal_form :
    (∀ c, isBlank c = true ↔ c.toNat ∈ whiteSpace) ∧
      (∀ kind, Id.NormalForm kind) ∧
      ∀ countryCode eventId r, AvailabilityRequest.parse countryCode eventId = .ok r ↔
        Between (countryCode.getD "") r.countryCode.text ∧ Between (eventId.getD "") r.eventId.text := by
  refine ⟨fun _ => isBlank_iff_mem_whiteSpace, fun kind => ?_, fun _ _ _ => AvailabilityRequest.parse_eq_ok_iff⟩
  exact {
    reading := Id.readAs kind
    decoding := fun _ _ => Id.decode_ofBytes_eq_ok_iff
    made_iff := fun _ => Id.exists_made_iff
    again := Id.parse_text
    readsBack := Id.readsBack
    order := Id.orderedByBytes kind }

/-- A tag with blanks beyond ASCII around it and one within, and its JSON text. -/
theorem identifiers_in_normal_form_of_padded_tag :
    let padded := "\u3000vip lounge\u0085"
    ∃ a : Tag, Id.parse .tag padded = .ok a ∧ a.text = "vip lounge" ∧
      (Reading.ofText (Value.string padded).text).decode (Node.id .tag) = .ok a := by
  intro padded
  have hbetween : Between padded "vip lounge" :=
    ⟨by decide, trimmed_of_ends rfl rfl (by decide) (by decide), "\u3000", "\u0085", by decide,
      List.all_eq_true.1 rfl, List.all_eq_true.1 rfl⟩
  have htag := identifiers_in_normal_form.2.1 .tag
  have hread := htag.reading padded
  have hparse := (hread.text_iff ⟨"vip lounge", by decide, hbetween.trimmed⟩).2 hbetween
  refine ⟨_, hparse, rfl, ?_⟩
  rw [hread.inText _ hread.printed, hparse]
  rfl

end BoxOffice
