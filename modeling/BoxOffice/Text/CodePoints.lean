import BoxOffice.Text.Numeral
import BoxOffice.Text.Split

/-!
# Sets of code points

Tables of characters are written as text: code points of base sixteen with spaces between them, and a
hyphen between the ends of a stretch of code points. `codeRanges` reads such a text, `isIn` looks a
character up.
-/

namespace BoxOffice.Text

/-- A stretch of code points, ends included. -/
structure CodeRange where
  first : Nat
  last : Nat
  deriving Repr, DecidableEq

namespace CodeRange

/-- A code point, or two with a hyphen between them. -/
def ofChars (cs : List Char) : CodeRange :=
  let (first, last) := cutAt '-' cs
  ⟨natOfHexDigits first, natOfHexDigits (if last.isEmpty then first else last)⟩

/-- Whether a code point lies between the ends. -/
def has (s : CodeRange) (n : Nat) : Bool := s.first ≤ n && n ≤ s.last

end CodeRange

/-- The words of some lines: what stands between spaces. -/
def words (lines : List String) : List (List Char) := lines.flatMap fun line => splitOn ' ' line.toList

/-- The stretches that some lines write. -/
def codeRanges (lines : List String) : List CodeRange := (words lines).map CodeRange.ofChars

/-- Whether a character is in a set. -/
def isIn (set : List CodeRange) (c : Char) : Bool := set.any (·.has c.toNat)

end BoxOffice.Text
