import BoxOffice.Text.Numeral

/-!
# Punycode

Text in ASCII letters, digits and hyphens that stands for any text. The ASCII characters come first, up
to the last hyphen; each of the other characters is put in by a number, which tells how far the next
place and the next code point are from those before. `Punycode.decode?` reads such a text.
-/

namespace BoxOffice.Text.Punycode

/-- The value of a digit of base thirty-six: letters first, in either case. -/
def digitValue? (c : Char) : Option Nat :=
  if 'a' ≤ c && c ≤ 'z' then some (c.toNat - 'a'.toNat)
  else if 'A' ≤ c && c ≤ 'Z' then some (c.toNat - 'A'.toNat)
  else if isDigit c then some (digitValue c + 26)
  else none

/-- The least value of a digit that does not end its number: `place` counts the digits in steps of
thirty-six. -/
def threshold (bias place : Nat) : Nat := min 26 (max 1 (place - bias))

/-- A number at the start of a text, its lowest digit first. -/
def number (bias place weight : Nat) : List Char → Option (Nat × List Char)
  | [] => none
  | c :: cs =>
    match digitValue? c with
    | none => none
    | some d =>
      let t := threshold bias place
      if d < t then some (d * weight, cs)
      else (number bias (place + 36) (weight * (36 - t)) cs).map fun (n, cs) => (d * weight + n, cs)

theorem length_number_lt {bias place weight n : Nat} {cs rest : List Char}
    (h : number bias place weight cs = some (n, rest)) : rest.length < cs.length := by
  induction cs generalizing place weight n with
  | nil => simp [number] at h
  | cons c cs ih =>
    rw [number] at h
    split at h
    · simp at h
    · dsimp only at h
      split at h
      · simp only [Option.some.injEq, Prod.mk.injEq] at h
        rw [← h.2]
        exact Nat.lt_succ_self _
      · obtain ⟨⟨m, _⟩, hm, hrest⟩ := Option.map_eq_some_iff.1 h
        obtain ⟨_, rfl⟩ := Prod.mk.inj hrest
        exact Nat.lt_succ_of_lt (ih hm)

/-- How often a number has to be divided until it is small, in steps of thirty-six, and what is left. -/
def shrink (place n : Nat) : Nat × Nat :=
  if 455 < n then shrink (place + 36) (n / 35) else (place, n)
termination_by n
decreasing_by omega

/-- The bias after a number that put in the first character, or a later one, of `count`. -/
def nextBias (first : Bool) (n count : Nat) : Nat :=
  let n := if first then n / 700 else n / 2
  let (place, n) := shrink 0 (n + n / count)
  place + 36 * n / (n + 38)

/-- A text on the way: its characters so far, where the next may stand, and the least code point that it
may have. -/
structure Draft where
  chars : List Char
  place : Nat
  code : Nat
  bias : Nat

/-- The code points that are characters. -/
def isCharCode (n : Nat) : Bool := n < 0xD800 || (0xDFFF < n && n < 0x110000)

/-- Puts in the character that a number tells. -/
def Draft.add? (d : Draft) (n : Nat) : Option Draft :=
  let count := d.chars.length + 1
  let steps := d.place + n
  let code := d.code + steps / count
  if isCharCode code then
    some {
      chars := d.chars.insertIdx (steps % count) (Char.ofNat code)
      place := steps % count + 1
      code
      bias := nextBias (d.place = 0) n count }
  else none

/-- Puts in the characters that the numbers of a text tell. -/
def fill (d : Draft) (cs : List Char) : Option (List Char) :=
  if cs.isEmpty then some d.chars
  else
    match _h : number d.bias 36 1 cs with
    | none => none
    | some (n, rest) =>
      match d.add? n with
      | none => none
      | some d => fill d rest
termination_by cs.length
decreasing_by exact length_number_lt _h

/-- The characters that a text stands for. -/
def decode? (cs : List Char) : Option (List Char) :=
  let numbers := (cs.reverse.takeWhile (· ≠ '-')).reverse
  fill ⟨cs.take (cs.length - numbers.length - 1), 0, 128, 72⟩ numbers

end BoxOffice.Text.Punycode
