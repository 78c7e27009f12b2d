import BoxOffice.Proofs.Text.Utf8

/-!
# Texts ordered by their bytes

Texts are ordered by their characters, and their UTF-8 bytes are in the same order: of two characters the lower
one has the lower bytes, whatever follows them (`utf8EncodeChar_append_lt`), so the first characters in which
two texts differ decide among the bytes as well (`compare_encode`).
-/

namespace BoxOffice.Text.Utf8

/-! ## Bytes of characters -/

section Digits

variable {m n : Nat}

/-- Numbers are compared by what is above their lowest six bits, and by these where that is the same. -/
theorem lt_iff_div_lt_or : m < n ↔ m / 64 < n / 64 ∨ m / 64 = n / 64 ∧ m % 64 < n % 64 := by
  omega

theorem ofNat_lt_ofNat_iff (hm : m < 256) (hn : n < 256) : UInt8.ofNat m < UInt8.ofNat n ↔ m < n := by
  rw [UInt8.lt_iff_toNat_lt, toNat_ofNat_of_lt hm, toNat_ofNat_of_lt hn]

theorem ofNat_eq_ofNat_iff (hm : m < 256) (hn : n < 256) : UInt8.ofNat m = UInt8.ofNat n ↔ m = n := by
  rw [← UInt8.toNat_inj, toNat_ofNat_of_lt hm, toNat_ofNat_of_lt hn]

end Digits

/-- The lower of two characters has the lower bytes, whatever follows them. -/
theorem utf8EncodeChar_append_lt {c d : Char} (h : c < d) (xs ys : List UInt8) :
    String.utf8EncodeChar c ++ xs < String.utf8EncodeChar d ++ ys := by
  have hlt : c.val.toNat < d.val.toNat := h
  have hlast : d.val.toNat < 1114112 := (toNat_bounds d).2
  unfold String.utf8EncodeChar
  dsimp only
  generalize c.val.toNat = m at *
  generalize d.val.toNat = n at *
  have hlow := @lt_iff_div_lt_or m n
  have hmiddle := @lt_iff_div_lt_or (m / 64) (n / 64)
  have hhigh := @lt_iff_div_lt_or (m / 4096) (n / 4096)
  simp only [Nat.div_div_eq_div_mul, Nat.reduceMul] at hmiddle hhigh
  have htop : m / 262144 % 8 = m / 262144 ∧ n / 262144 % 8 = n / 262144 := by omega
  -- A goal for each number of bytes of either character. More bytes have a higher first byte; as many are
  -- compared by the bits that they carry, the high ones first.
  repeat' split
  all_goals
    simp (disch := omega) only [List.cons_append, List.cons_lt_cons_iff, ofNat_lt_ofNat_iff, ofNat_eq_ofNat_iff,
      htop, Nat.add_lt_add_iff_right, Nat.add_right_cancel_iff]
    omega

theorem nil_lt_utf8EncodeChar_append (c : Char) (xs : List UInt8) : [] < String.utf8EncodeChar c ++ xs := by
  obtain ⟨b, bs, hbytes, -⟩ := chunk_utf8EncodeChar c []
  rw [hbytes]
  exact List.nil_lt_cons b (bs ++ xs)

/-! ## Bytes of texts -/

/-- The lower of two texts has the lower bytes. -/
theorem flatMap_lt {cs ds : List Char} (h : cs < ds) :
    cs.flatMap String.utf8EncodeChar < ds.flatMap String.utf8EncodeChar := by
  induction cs generalizing ds with
  | nil =>
    cases ds with
    | nil => exact absurd h (List.lt_irrefl [])
    | cons d ds => exact nil_lt_utf8EncodeChar_append d _
  | cons c cs ih =>
    cases ds with
    | nil => exact absurd h (List.not_lt_nil _)
    | cons d ds =>
      rw [List.flatMap_cons, List.flatMap_cons]
      rcases List.cons_lt_cons_iff.1 h with hlt | ⟨rfl, hlt⟩
      · exact utf8EncodeChar_append_lt hlt _ _
      · exact List.append_left_lt (ih hlt)

theorem encode_lt {s t : String} (h : s < t) : encode s < encode t :=
  flatMap_lt (String.lt_iff.1 h)

/-- Lists of bytes are compared at the first place in which they differ. -/
theorem compare_eq_lt_of_lt {xs ys : List UInt8} (h : xs < ys) : compare xs ys = .lt := by
  induction xs generalizing ys with
  | nil =>
    cases ys with
    | nil => exact absurd h (List.lt_irrefl [])
    | cons y ys => exact List.compare_nil_cons
  | cons x xs ih =>
    cases ys with
    | nil => exact absurd h (List.not_lt_nil _)
    | cons y ys =>
      rw [List.compare_cons_cons]
      rcases List.cons_lt_cons_iff.1 h with hlt | ⟨rfl, hlt⟩
      · rw [Std.compare_eq_lt.2 hlt, Ordering.lt_then]
      · rw [Std.compare_self, ih hlt, Ordering.eq_then]

/-- Two texts compare as their bytes do. -/
theorem compare_encode (s t : String) : compare (encode s) (encode t) = compare s t := by
  have hlower : ∀ {s t : String}, compare s t = .lt → compare (encode s) (encode t) = .lt :=
    fun h => compare_eq_lt_of_lt (encode_lt (compareOfLessAndEq_eq_lt.1 h))
  cases h : compare s t with
  | lt => exact hlower h
  | eq => rw [Std.LawfulEqOrd.eq_of_compare h, Std.compare_self]
  | gt => exact Std.OrientedCmp.gt_of_lt (hlower (Std.OrientedCmp.lt_of_gt h))

end BoxOffice.Text.Utf8
