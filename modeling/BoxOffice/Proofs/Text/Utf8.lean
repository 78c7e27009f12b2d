import BoxOffice.Text.Utf8

/-!
# Texts read back from their bytes

The bytes of a character start with its chunk, whatever follows them (`chunk_utf8EncodeChar`), so the
bytes of a text fall into the characters of the text, and reading them gives the text again
(`decodeLossy_encode`). The encoding has six bits of the code point in each byte but the first; the
second byte is never one that an overlong form or a surrogate would have.

Conversely a chunk that is a character takes up exactly the bytes of the character (`bytes_of_chunk`), so
bytes in which nothing is broken are those of a text (`symbols_eq_map_some_iff`).
-/

namespace BoxOffice.Text.Utf8

/-! ## Bytes -/

section Bytes

variable {a b c d n : Nat}

theorem toNat_ofNat_of_lt (h : n < 256) : (UInt8.ofNat n).toNat = n := by
  rw [UInt8.toNat_ofNat', Nat.mod_eq_of_lt h]

theorem ofNat_le_iff (h : n < 256) (b : UInt8) : UInt8.ofNat n ≤ b ↔ n ≤ b.toNat := by
  rw [UInt8.le_iff_toNat_le, toNat_ofNat_of_lt h]

theorem le_ofNat_iff (h : n < 256) (b : UInt8) : b ≤ UInt8.ofNat n ↔ b.toNat ≤ n := by
  rw [UInt8.le_iff_toNat_le, toNat_ofNat_of_lt h]

theorem payload_ofNat (hb : b < 64) : payload (UInt8.ofNat (b + 128)) = b := by
  unfold payload
  rw [toNat_ofNat_of_lt (by omega)]
  omega

theorem isContinuation_ofNat (hb : b < 64) : isContinuation (UInt8.ofNat (b + 128)) = true := by
  have hb' : b + 128 < 256 := by omega
  simp only [isContinuation, ofNat_le_iff hb', le_ofNat_iff hb', UInt8.reduceToNat, Bool.and_eq_true,
    decide_eq_true_eq]
  omega

theorem isSecondOfThree_ofNat (ha : a < 16) (hb : b < 64) (hshort : a = 0 → 32 ≤ b)
    (hsurrogate : a = 13 → b < 32) :
    isSecondOfThree (UInt8.ofNat (a + 224)) (UInt8.ofNat (b + 128)) = true := by
  have ha' : a + 224 < 256 := by omega
  have hb' : b + 128 < 256 := by omega
  simp only [isSecondOfThree, isContinuation_ofNat hb, ← UInt8.toNat_inj, toNat_ofNat_of_lt ha',
    ofNat_le_iff hb', le_ofNat_iff hb', UInt8.reduceToNat]
  split
  · simp only [Bool.and_eq_true, decide_eq_true_eq]
    omega
  · split
    · simp only [Bool.and_eq_true, decide_eq_true_eq]
      omega
    · rfl

theorem isSecondOfFour_ofNat (ha : a < 5) (hb : b < 64) (hshort : a = 0 → 16 ≤ b)
    (hlast : a = 4 → b < 16) :
    isSecondOfFour (UInt8.ofNat (a + 240)) (UInt8.ofNat (b + 128)) = true := by
  have ha' : a + 240 < 256 := by omega
  have hb' : b + 128 < 256 := by omega
  simp only [isSecondOfFour, isContinuation_ofNat hb, ← UInt8.toNat_inj, toNat_ofNat_of_lt ha',
    ofNat_le_iff hb', le_ofNat_iff hb', UInt8.reduceToNat]
  split
  · simp only [Bool.and_eq_true, decide_eq_true_eq]
    omega
  · split
    · simp only [Bool.and_eq_true, decide_eq_true_eq]
      omega
    · rfl

/-! ## Chunks of one to four bytes -/

variable (rest : List UInt8)

theorem chunk_of_one (ha : a < 128) : chunk (UInt8.ofNat a) rest = .char (Char.ofNat a) 0 := by
  have ha' : a < 256 := by omega
  have hlead : a ≤ 127 := by omega
  simp only [chunk, ofNat_le_iff ha', toNat_ofNat_of_lt ha', UInt8.reduceToNat, hlead]
  rfl

theorem chunk_of_two (hlong : 2 ≤ a) (ha : a < 32) (hb : b < 64) :
    chunk (UInt8.ofNat (a + 192)) (UInt8.ofNat (b + 128) :: rest) =
      .char (Char.ofNat (a * 64 + b)) 1 := by
  have ha' : a + 192 < 256 := by omega
  have hlead : ¬ a + 192 ≤ 127 ∧ 194 ≤ a + 192 ∧ a + 192 ≤ 223 := by omega
  have hbits : (a + 192) % 32 = a := by omega
  simp only [chunk, ofNat_le_iff ha', le_ofNat_iff ha', toNat_ofNat_of_lt ha', UInt8.reduceToNat,
    hlead, hbits, isContinuation_ofNat hb, payload_ofNat hb]
  rfl

theorem chunk_of_three (ha : a < 16) (hb : b < 64) (hshort : a = 0 → 32 ≤ b)
    (hsurrogate : a = 13 → b < 32) (hc : c < 64) :
    chunk (UInt8.ofNat (a + 224)) (UInt8.ofNat (b + 128) :: UInt8.ofNat (c + 128) :: rest) =
      .char (Char.ofNat ((a * 64 + b) * 64 + c)) 2 := by
  have ha' : a + 224 < 256 := by omega
  have hlead : ¬ a + 224 ≤ 127 ∧ ¬ a + 224 ≤ 223 ∧ 224 ≤ a + 224 ∧ a + 224 ≤ 239 := by omega
  have hbits : (a + 224) % 16 = a := by omega
  simp only [chunk, ofNat_le_iff ha', le_ofNat_iff ha', toNat_ofNat_of_lt ha', UInt8.reduceToNat,
    hlead, hbits, isSecondOfThree_ofNat ha hb hshort hsurrogate, isContinuation_ofNat hc,
    payload_ofNat hb, payload_ofNat hc, if_false]
  rfl

theorem chunk_of_four (ha : a < 5) (hb : b < 64) (hshort : a = 0 → 16 ≤ b) (hlast : a = 4 → b < 16)
    (hc : c < 64) (hd : d < 64) :
    chunk (UInt8.ofNat (a + 240))
        (UInt8.ofNat (b + 128) :: UInt8.ofNat (c + 128) :: UInt8.ofNat (d + 128) :: rest) =
      .char (Char.ofNat (((a * 64 + b) * 64 + c) * 64 + d)) 3 := by
  have ha' : a + 240 < 256 := by omega
  have hlead : ¬ a + 240 ≤ 127 ∧ ¬ a + 240 ≤ 223 ∧ ¬ a + 240 ≤ 239 ∧ 240 ≤ a + 240 ∧
      a + 240 ≤ 244 := by omega
  have hbits : (a + 240) % 8 = a := by omega
  simp only [chunk, ofNat_le_iff ha', le_ofNat_iff ha', toNat_ofNat_of_lt ha', UInt8.reduceToNat,
    hlead, hbits, isSecondOfFour_ofNat ha hb hshort hlast, isContinuation_ofNat hc,
    isContinuation_ofNat hd, payload_ofNat hb, payload_ofNat hc, payload_ofNat hd, if_false]
  rfl

end Bytes

/-! ## Characters -/

/-- No code point is a surrogate, or above the last one. -/
theorem toNat_bounds (c : Char) : (c.toNat < 55296 ∨ 57343 < c.toNat) ∧ c.toNat < 1114112 := by
  rcases c.valid with h | ⟨h, h'⟩
  · have hlt : c.toNat < 55296 := h
    omega
  · have hlt : 57343 < c.toNat := h
    have hlt' : c.toNat < 1114112 := h'
    omega

/-- What starts with the bytes of a character starts with the chunk of the character. -/
theorem chunk_utf8EncodeChar (c : Char) (rest : List UInt8) :
    ∃ b bs, String.utf8EncodeChar c = b :: bs ∧ chunk b (bs ++ rest) = .char c bs.length := by
  obtain ⟨hsurrogate, hlast⟩ := toNat_bounds c
  have hc : ∀ {n}, n = c.toNat → Char.ofNat n = c := by
    rintro _ rfl
    exact Char.ofNat_toNat c
  unfold String.utf8EncodeChar
  rw [show c.val.toNat = c.toNat from rfl]
  dsimp only
  split
  · exact ⟨_, _, rfl, (chunk_of_one _ (by omega)).trans (by rw [hc rfl]; rfl)⟩
  · split
    · refine ⟨_, _, rfl, (chunk_of_two _ (by omega) (by omega) (by omega)).trans ?_⟩
      rw [hc (by omega)]
      rfl
    · split
      · refine ⟨_, _, rfl, (chunk_of_three _ (by omega) (by omega) (by omega) (by omega)
          (by omega)).trans ?_⟩
        rw [hc (by omega)]
        rfl
      · refine ⟨_, _, rfl, (chunk_of_four _ (by omega) (by omega) (by omega) (by omega) (by omega)
          (by omega)).trans ?_⟩
        rw [hc (by omega)]
        rfl

theorem chunks_utf8EncodeChar (c : Char) (rest : List UInt8) :
    ∃ extra, chunks (String.utf8EncodeChar c ++ rest) = .char c extra :: chunks rest := by
  obtain ⟨b, bs, hbytes, hchunk⟩ := chunk_utf8EncodeChar c rest
  refine ⟨bs.length, ?_⟩
  rw [hbytes, List.cons_append, chunks, hchunk]
  simp only [Chunk.extra, List.drop_left]

/-! ## The bytes of a chunk -/

section Bits

variable {a b c d n : Nat}

theorem toNat_ofNat_of_isValidChar (h : n.isValidChar) : (Char.ofNat n).toNat = n := by
  unfold Char.ofNat
  rw [dif_pos h]
  rfl

theorem utf8EncodeChar_ofNat_of_one (ha : a < 128) :
    String.utf8EncodeChar (Char.ofNat a) = [UInt8.ofNat a] := by
  have hval : (Char.ofNat a).val.toNat = a := toNat_ofNat_of_isValidChar (.inl (by omega))
  unfold String.utf8EncodeChar
  simp only [hval]
  rw [if_pos (by omega)]

theorem utf8EncodeChar_ofNat_of_two (hlong : 2 ≤ a) (ha : a < 32) (hb : b < 64) :
    String.utf8EncodeChar (Char.ofNat (a * 64 + b)) = [UInt8.ofNat (a + 192), UInt8.ofNat (b + 128)] := by
  have hval : (Char.ofNat (a * 64 + b)).val.toNat = a * 64 + b :=
    toNat_ofNat_of_isValidChar (.inl (by omega))
  have hbits : (a * 64 + b) / 64 % 32 = a ∧ (a * 64 + b) % 64 = b := by omega
  unfold String.utf8EncodeChar
  simp only [hval, hbits]
  rw [if_neg (by omega), if_pos (by omega)]

theorem utf8EncodeChar_ofNat_of_three (ha : a < 16) (hb : b < 64) (hshort : a = 0 → 32 ≤ b)
    (hsurrogate : a = 13 → b < 32) (hc : c < 64) :
    String.utf8EncodeChar (Char.ofNat ((a * 64 + b) * 64 + c)) =
      [UInt8.ofNat (a + 224), UInt8.ofNat (b + 128), UInt8.ofNat (c + 128)] := by
  have hvalid : ((a * 64 + b) * 64 + c).isValidChar := by
    unfold Nat.isValidChar
    omega
  have hval := toNat_ofNat_of_isValidChar hvalid
  have hbits : ((a * 64 + b) * 64 + c) / 4096 % 16 = a ∧ ((a * 64 + b) * 64 + c) / 64 % 64 = b ∧
      ((a * 64 + b) * 64 + c) % 64 = c := by omega
  unfold Char.toNat at hval
  unfold String.utf8EncodeChar
  simp only [hval, hbits]
  rw [if_neg (by omega), if_neg (by omega), if_pos (by omega)]

theorem utf8EncodeChar_ofNat_of_four (ha : a < 5) (hb : b < 64) (hshort : a = 0 → 16 ≤ b)
    (hlast : a = 4 → b < 16) (hc : c < 64) (hd : d < 64) :
    String.utf8EncodeChar (Char.ofNat (((a * 64 + b) * 64 + c) * 64 + d)) =
      [UInt8.ofNat (a + 240), UInt8.ofNat (b + 128), UInt8.ofNat (c + 128), UInt8.ofNat (d + 128)] := by
  obtain ⟨n, hn⟩ : ∃ n, n = ((a * 64 + b) * 64 + c) * 64 + d := ⟨_, rfl⟩
  have hvalid : n.isValidChar := by
    unfold Nat.isValidChar
    omega
  have hval := toNat_ofNat_of_isValidChar hvalid
  have hbits : n / 262144 % 8 = a ∧ n / 4096 % 64 = b ∧ n / 64 % 64 = c ∧ n % 64 = d := by omega
  unfold Char.toNat at hval
  unfold String.utf8EncodeChar
  rw [← hn]
  simp only [hval, hbits]
  rw [if_neg (by omega), if_neg (by omega), if_neg (by omega)]

theorem ofNat_eq_of_toNat {b : UInt8} (h : n = b.toNat) : UInt8.ofNat n = b := by
  rw [h, UInt8.ofNat_toNat]

end Bits

theorem payload_lt (b : UInt8) : payload b < 64 := Nat.mod_lt _ (by decide)

/-- A byte that follows the first is known from the bits that it carries. -/
theorem ofNat_payload {b : UInt8} (h : isContinuation b = true) : UInt8.ofNat (payload b + 128) = b := by
  simp only [isContinuation, Bool.and_eq_true, decide_eq_true_eq, UInt8.le_iff_toNat_le,
    UInt8.reduceToNat] at h
  apply ofNat_eq_of_toNat
  unfold payload
  omega

section Second

variable {b₀ b₁ : UInt8}

theorem isContinuation_of_isSecondOfThree (h : isSecondOfThree b₀ b₁ = true) :
    isContinuation b₁ = true ∧ (b₀.toNat = 224 → 32 ≤ payload b₁) ∧
      (b₀.toNat = 237 → payload b₁ < 32) := by
  unfold isSecondOfThree at h
  unfold payload
  simp only [isContinuation, ← UInt8.toNat_inj, UInt8.le_iff_toNat_le, UInt8.reduceToNat] at h ⊢
  split at h
  · simp only [Bool.and_eq_true, decide_eq_true_eq] at h ⊢
    omega
  · split at h <;> simp only [Bool.and_eq_true, decide_eq_true_eq] at h ⊢ <;> omega

theorem isContinuation_of_isSecondOfFour (h : isSecondOfFour b₀ b₁ = true) :
    isContinuation b₁ = true ∧ (b₀.toNat = 240 → 16 ≤ payload b₁) ∧
      (b₀.toNat = 244 → payload b₁ < 16) := by
  unfold isSecondOfFour at h
  unfold payload
  simp only [isContinuation, ← UInt8.toNat_inj, UInt8.le_iff_toNat_le, UInt8.reduceToNat] at h ⊢
  split at h
  · simp only [Bool.and_eq_true, decide_eq_true_eq] at h ⊢
    omega
  · split at h <;> simp only [Bool.and_eq_true, decide_eq_true_eq] at h ⊢ <;> omega

end Second

section Unbroken

variable {bytes rest : List UInt8}

/-- The bytes of a chunk that is a character are those of the character. -/
theorem bytes_of_chunk {b : UInt8} {c : Char} {extra : Nat} (h : chunk b rest = .char c extra) :
    b :: rest = String.utf8EncodeChar c ++ rest.drop extra := by
  unfold chunk at h
  simp only [Bool.and_eq_true, decide_eq_true_eq, Bool.not_eq_true', UInt8.le_iff_toNat_le,
    UInt8.reduceToNat] at h
  repeat' split at h
  -- The broken stretches go; a character is left for each number of bytes.
  all_goals cases h
  · rw [utf8EncodeChar_ofNat_of_one (by omega), UInt8.ofNat_toNat]
    rfl
  · next hsecond =>
    have hfirst : UInt8.ofNat (b.toNat % 32 + 192) = b := ofNat_eq_of_toNat (by omega)
    rw [utf8EncodeChar_ofNat_of_two (by omega) (by omega) (payload_lt _), hfirst, ofNat_payload hsecond]
    rfl
  · next hsecond hthird =>
    have hfirst : UInt8.ofNat (b.toNat % 16 + 224) = b := ofNat_eq_of_toNat (by omega)
    rw [Bool.not_eq_false] at hsecond hthird
    obtain ⟨hsecond, hshort, hsurrogate⟩ := isContinuation_of_isSecondOfThree hsecond
    rw [utf8EncodeChar_ofNat_of_three (by omega) (payload_lt _) (by omega) (by omega) (payload_lt _),
      hfirst, ofNat_payload hsecond, ofNat_payload hthird]
    rfl
  · next hsecond hthird hfourth =>
    have hfirst : UInt8.ofNat (b.toNat % 8 + 240) = b := ofNat_eq_of_toNat (by omega)
    rw [Bool.not_eq_false] at hsecond hthird hfourth
    obtain ⟨hsecond, hshort, hlast⟩ := isContinuation_of_isSecondOfFour hsecond
    rw [utf8EncodeChar_ofNat_of_four (by omega) (payload_lt _) (by omega) (by omega) (payload_lt _)
      (payload_lt _), hfirst, ofNat_payload hsecond, ofNat_payload hthird, ofNat_payload hfourth]
    rfl

/-- Bytes that are read without a mark between the characters are those of the characters. -/
theorem eq_of_symbols {cs : List Char} (h : symbols bytes = cs.map some) :
    bytes = cs.flatMap String.utf8EncodeChar := by
  unfold symbols at h
  fun_induction chunks bytes generalizing cs with
  | case1 =>
    cases cs with
    | nil => rfl
    | cons c cs => cases h
  | case2 b rest ih =>
    cases hchunk : chunk b rest with
    | char c extra =>
      rw [hchunk] at h ih
      cases cs with
      | nil => cases h
      | cons c' cs =>
        obtain ⟨hc, hcs⟩ := List.cons.inj h
        rw [bytes_of_chunk hchunk, List.flatMap_cons, ← Option.some.inj hc, ← ih hcs]
        rfl
    | broken extra =>
      -- A broken stretch starts with a mark.
      rw [hchunk] at h
      cases cs with
      | nil => cases h
      | cons c' cs => cases (List.cons.inj h).1

end Unbroken

/-! ## Texts -/

theorem symbols_flatMap (cs : List Char) : symbols (cs.flatMap String.utf8EncodeChar) = cs.map some := by
  unfold symbols
  induction cs with
  | nil => rw [List.flatMap_nil, chunks, List.flatMap_nil, List.map_nil]
  | cons c cs ih =>
    obtain ⟨extra, hchunks⟩ := chunks_utf8EncodeChar c (cs.flatMap String.utf8EncodeChar)
    rw [List.flatMap_cons, hchunks, List.flatMap_cons, ih]
    rfl

/-- Nothing is broken in the bytes of a text, and in no others. -/
theorem symbols_eq_map_some_iff {bytes : List UInt8} {cs : List Char} :
    symbols bytes = cs.map some ↔ bytes = cs.flatMap String.utf8EncodeChar := by
  constructor
  · exact eq_of_symbols
  · rintro rfl
    exact symbols_flatMap cs

/-- No byte of a text is broken. -/
theorem symbols_encode (s : String) : symbols (encode s) = symbolsOfText s := symbols_flatMap s.toList

theorem chunks_flatMap (cs : List Char) :
    (chunks (cs.flatMap String.utf8EncodeChar)).map Chunk.toChar = cs := by
  induction cs with
  | nil => rw [List.flatMap_nil, chunks, List.map_nil]
  | cons c cs ih =>
    obtain ⟨extra, hchunks⟩ := chunks_utf8EncodeChar c (cs.flatMap String.utf8EncodeChar)
    rw [List.flatMap_cons, hchunks, List.map_cons, ih]
    rfl

/-- The bytes of a text are read as the text. -/
theorem decodeLossy_encode (s : String) : decodeLossy (encode s) = s := by
  unfold decodeLossy encode
  rw [chunks_flatMap, String.ofList_toList]

end BoxOffice.Text.Utf8
