import BoxOffice.Text.Numeral

/-!
# Request identifiers

A `Uuid` is thirty-two digits of base sixteen. `Uuid.chars` is its canonical form, in lower case with
hyphens; `Uuid.parse?` reads that form, the digits without hyphens, and the canonical form in braces or behind
a fixed word, with letters of either case.
-/

namespace BoxOffice

open BoxOffice.Text

/-- Thirty-two digits of base sixteen. -/
structure Uuid where
  digits : List (Fin 16)
  length_digits : digits.length = 32
  deriving DecidableEq

namespace Uuid

/-- The lengths of the groups of digits. -/
def groups : List Nat := [8, 4, 4, 4, 12]

/-- Characters in groups of given lengths, with a hyphen between two groups. -/
def hyphenate : List Nat → List Char → List Char
  | [], cs => cs
  | [_], cs => cs
  | n :: ns, cs => cs.take n ++ '-' :: hyphenate ns (cs.drop n)

/-- Takes the hyphens out that stand between groups of given lengths. -/
def unhyphenate? : List Nat → List Char → Option (List Char)
  | [], cs => if cs.isEmpty then some [] else none
  | [n], cs => if cs.length = n then some cs else none
  | n :: ns, cs =>
    if (cs.take n).length = n && (cs.drop n).head? == some '-' then
      (unhyphenate? ns (cs.drop (n + 1))).map (cs.take n ++ ·)
    else none

/-- The canonical form. -/
def chars (u : Uuid) : List Char := hyphenate groups (u.digits.map fun d => hexDigit d.val)

/-- The canonical form as a text. -/
def text (u : Uuid) : String := String.ofList u.chars

/-- A digit of base sixteen, of either case. -/
def digit? (c : Char) : Option (Fin 16) :=
  (hexValue? c).bind fun n => if h : n < 16 then some ⟨n, h⟩ else none

/-- The identifier of thirty-two digits. -/
def ofDigits? (cs : List Char) : Option Uuid := do
  let digits ← cs.mapM digit?
  if h : digits.length = 32 then some ⟨digits, h⟩ else none

/-- The identifier of groups of digits with hyphens between them. -/
def ofHyphenated? (cs : List Char) : Option Uuid := (unhyphenate? groups cs).bind ofDigits?

/-- The word that may stand before an identifier, in any case. -/
def urn : List Char := ['u', 'r', 'n', ':', 'u', 'u', 'i', 'd', ':']

/-- The identifier that a text denotes. -/
def parse? (cs : List Char) : Option Uuid :=
  match cs with
  | '\x7b' :: inner =>
    if inner.getLast? = some '\x7d' then ofHyphenated? inner.dropLast else none
  | cs =>
    if (cs.take urn.length).map Char.toLower = urn then ofHyphenated? (cs.drop urn.length)
    else if cs.length = 32 then ofDigits? cs
    else ofHyphenated? cs

end Uuid

end BoxOffice
