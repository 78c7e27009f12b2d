import BoxOffice.Http.Form
import BoxOffice.Proofs.Text.Utf8

/-!
# Forms read back

Pairs that are written in the form encoding are read back as they were, whatever texts they hold
(`decode_encode`).

1. A name or a value is read back character by character: a plus sign stands for the space, and
   every other character that has a meaning in a form is written with percent signs
   (`decodePart_encodePart`).
2. So no ampersand and no equals sign comes from a name or a value, and the text is cut where it was
   joined (`splitOn_intercalate`, `cutAt_append`).
-/

namespace BoxOffice.Text

/-! ## Cutting -/

section Cut

variable {mark : Char} {piece : List Char}

theorem cutAt_append (h : mark ∉ piece) (rest : List Char) :
    cutAt mark (piece ++ mark :: rest) = (piece, rest) := by
  have hpiece : ∀ c ∈ piece, decide (c ≠ mark) = true := by
    intro c hc
    exact decide_eq_true (ne_of_mem_of_not_mem hc h)
  unfold cutAt
  rw [List.takeWhile_append_of_pos hpiece, List.dropWhile_append_of_pos hpiece]
  simp

theorem splitOn_of_not_mem (h : mark ∉ piece) : splitOn mark piece = [piece] := by
  induction piece with
  | nil => rfl
  | cons c piece ih =>
    obtain ⟨hc, hpiece⟩ := not_or.1 (mt List.mem_cons.2 h)
    rw [splitOn, if_neg (Ne.symm hc), ih hpiece]

theorem splitOn_append (h : mark ∉ piece) (rest : List Char) :
    splitOn mark (piece ++ mark :: rest) = piece :: splitOn mark rest := by
  induction piece with
  | nil => rw [List.nil_append, splitOn, if_pos rfl]
  | cons c piece ih =>
    obtain ⟨hc, hpiece⟩ := not_or.1 (mt List.mem_cons.2 h)
    rw [List.cons_append, splitOn, if_neg (Ne.symm hc), ih hpiece]

/-- Pieces that were joined by a mark are cut apart at it. -/
theorem splitOn_intercalate {p : List Char} {ps : List (List Char)} (h : ∀ q ∈ p :: ps, mark ∉ q) :
    splitOn mark ([mark].intercalate (p :: ps)) = p :: ps := by
  induction ps generalizing p with
  | nil =>
    rw [List.intercalate_singleton]
    exact splitOn_of_not_mem (h p List.mem_cons_self)
  | cons q ps ih =>
    rw [List.intercalate_cons_cons, List.append_assoc, List.singleton_append,
      splitOn_append (h p List.mem_cons_self), ih fun q' hq' => h q' (List.mem_cons_of_mem p hq')]

end Cut

/-! ## Bytes in percent encoding -/

theorem hexValue?_upperHexDigit : ∀ n < 16, hexValue? (Percent.upperHexDigit n) = some n := by decide

namespace Percent

theorem decode_encodeByte (b : UInt8) (rest : List Char) :
    decode (encodeByte b ++ rest) = b :: decode rest := by
  have hb : b.toNat < 256 := b.toNat_lt
  have hbyte : UInt8.ofNat (b.toNat / 16 * 16 + b.toNat % 16) = b := by
    rw [Nat.div_add_mod' b.toNat 16, UInt8.ofNat_toNat]
  unfold encodeByte
  simp only [List.cons_append, List.nil_append, decode,
    hexValue?_upperHexDigit _ (show b.toNat / 16 < 16 by omega),
    hexValue?_upperHexDigit _ (show b.toNat % 16 < 16 by omega), hbyte]

theorem decode_flatMap_encodeByte (bs : List UInt8) (rest : List Char) :
    decode (bs.flatMap encodeByte ++ rest) = bs ++ decode rest := by
  induction bs with
  | nil => rfl
  | cons b bs ih => rw [List.flatMap_cons, List.append_assoc, decode_encodeByte, ih, List.cons_append]

/-- Any other character than a percent sign stands for itself. -/
theorem decode_cons {c : Char} (hc : c ≠ '%') (rest : List Char) :
    decode (c :: rest) = String.utf8EncodeChar c ++ decode rest := by
  rw [decode]
  exact fun _ _ _ h => absurd h hc

end Percent

end BoxOffice.Text

namespace BoxOffice.Http.Form

open BoxOffice.Text

/-! ## Characters -/

/-- What a character of a form is read as before its percent signs are. -/
def unplus (c : Char) : Char := if c = '+' then ' ' else c

/-- The character has no meaning in a form, the percent sign aside. -/
def NoMark (c : Char) : Prop := c ≠ '+' ∧ c ≠ '&' ∧ c ≠ '='

instance (c : Char) : Decidable (NoMark c) := by
  unfold NoMark
  infer_instance

theorem noMark_upperHexDigit : ∀ n < 16, NoMark (Percent.upperHexDigit n) := by decide

theorem noMark_of_isSafe {c : Char} (h : isSafe c = true) : NoMark c ∧ c ≠ '%' := by
  refine ⟨⟨?_, ?_, ?_⟩, ?_⟩ <;> rintro rfl <;> exact absurd h (by decide)

theorem noMark_of_mem_encodeByte {b : UInt8} {c : Char} (h : c ∈ Percent.encodeByte b) : NoMark c := by
  have hb : b.toNat < 256 := b.toNat_lt
  simp only [Percent.encodeByte, List.mem_cons, List.not_mem_nil, or_false] at h
  rcases h with rfl | rfl | rfl
  · decide
  · exact noMark_upperHexDigit _ (by omega)
  · exact noMark_upperHexDigit _ (by omega)

theorem map_unplus_of_noMark {cs : List Char} (h : ∀ c ∈ cs, NoMark c) : cs.map unplus = cs :=
  calc cs.map unplus = cs.map id := List.map_congr_left fun c hc => if_neg (h c hc).1
    _ = cs := List.map_id cs

/-- A character that was written is read as its bytes. -/
theorem decode_encodeChar (c : Char) (rest : List Char) :
    Percent.decode ((encodeChar c).map unplus ++ rest) =
      String.utf8EncodeChar c ++ Percent.decode rest := by
  unfold encodeChar
  split
  · next hspace =>
    rw [hspace]
    exact Percent.decode_cons (by decide) rest
  · split
    · next hsafe =>
      obtain ⟨hmark, hpercent⟩ := noMark_of_isSafe hsafe
      rw [List.map_singleton, unplus, if_neg hmark.1]
      exact Percent.decode_cons hpercent rest
    · rw [map_unplus_of_noMark, Percent.decode_flatMap_encodeByte]
      intro x hx
      obtain ⟨b, -, hx⟩ := List.mem_flatMap.1 hx
      exact noMark_of_mem_encodeByte hx

/-- No character is written with an ampersand or an equals sign. -/
theorem ne_of_mem_encodeChar {c x : Char} (h : x ∈ encodeChar c) : x ≠ '&' ∧ x ≠ '=' := by
  unfold encodeChar at h
  split at h
  · rw [List.mem_singleton.1 h]
    decide
  · split at h
    · next hsafe =>
      rw [List.mem_singleton.1 h]
      exact (noMark_of_isSafe hsafe).1.2
    · obtain ⟨b, -, hx⟩ := List.mem_flatMap.1 h
      exact (noMark_of_mem_encodeByte hx).2

/-! ## Names and values -/

theorem decode_encodeChars (cs : List Char) :
    Percent.decode ((cs.flatMap encodeChar).map unplus) = cs.flatMap String.utf8EncodeChar := by
  induction cs with
  | nil => rfl
  | cons c cs ih => rw [List.flatMap_cons, List.map_append, decode_encodeChar, ih, List.flatMap_cons]

/-- A name or a value is read back. -/
theorem decodePart_encodePart (s : String) : decodePart (encodePart s) = s :=
  calc decodePart (encodePart s)
      = Utf8.decodeLossy (Percent.decode ((s.toList.flatMap encodeChar).map unplus)) := rfl
    _ = Utf8.decodeLossy (Utf8.encode s) := by rw [decode_encodeChars, Utf8.encode]
    _ = s := Utf8.decodeLossy_encode s

theorem ne_of_mem_encodePart {s : String} {x : Char} (h : x ∈ encodePart s) : x ≠ '&' ∧ x ≠ '=' := by
  obtain ⟨c, -, hx⟩ := List.mem_flatMap.1 h
  exact ne_of_mem_encodeChar hx

/-! ## Pairs -/

theorem decodePair_encodePair (pair : String × String) : decodePair (encodePair pair) = pair := by
  have hname : '=' ∉ encodePart pair.1 := fun h => (ne_of_mem_encodePart h).2 rfl
  unfold decodePair encodePair
  rw [cutAt_append hname]
  exact Prod.ext (decodePart_encodePart pair.1) (decodePart_encodePart pair.2)

theorem not_mem_encodePair (pair : String × String) : '&' ∉ encodePair pair := by
  intro h
  rcases List.mem_append.1 h with hname | hrest
  · exact (ne_of_mem_encodePart hname).1 rfl
  · rcases List.mem_cons.1 hrest with heq | hvalue
    · exact absurd heq (by decide)
    · exact (ne_of_mem_encodePart hvalue).1 rfl

theorem isEmpty_encodePair (pair : String × String) : (encodePair pair).isEmpty = false := by
  unfold encodePair
  simp

/-- Pairs that are written as a query string are read back. -/
theorem decode_encode (pairs : List (String × String)) : decode (encode pairs) = pairs := by
  cases pairs with
  | nil => rfl
  | cons pair pairs =>
    have hmark : ∀ q ∈ (pair :: pairs).map encodePair, '&' ∉ q := by
      intro q hq
      obtain ⟨p, -, rfl⟩ := List.mem_map.1 hq
      exact not_mem_encodePair p
    have hkept : ((pair :: pairs).map encodePair).filter (!·.isEmpty) =
        (pair :: pairs).map encodePair := by
      refine List.filter_eq_self.2 fun q hq => ?_
      obtain ⟨p, -, rfl⟩ := List.mem_map.1 hq
      rw [isEmpty_encodePair, Bool.not_false]
    unfold decode encode
    rw [String.toList_ofList, List.map_cons, splitOn_intercalate hmark, ← List.map_cons, hkept,
      List.map_map]
    exact List.map_id'' (fun p => decodePair_encodePair p) _

end BoxOffice.Http.Form
