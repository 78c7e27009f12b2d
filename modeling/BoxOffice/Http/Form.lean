import BoxOffice.Text.Percent
import BoxOffice.Text.Split

/-!
# Form encoding

A query string holds named values: pairs between ampersands, each a name and a value with an equals sign
between them. A space is written as a plus sign; other bytes may be written with percent signs. Bytes that are no
text are read as replacement characters.
-/

namespace BoxOffice.Http.Form

open BoxOffice.Text

/-- The text of a name or a value. -/
def decodePart (cs : List Char) : String :=
  Utf8.decodeLossy (Percent.decode (cs.map fun c => if c = '+' then ' ' else c))

/-- The pair that stands between two ampersands. Without an equals sign the value is empty. -/
def decodePair (cs : List Char) : String × String :=
  let (name, value) := cutAt '=' cs
  (decodePart name, decodePart value)

/-- The pairs of a query string, in order. Nothing between two ampersands is no pair. -/
def decode (query : String) : List (String × String) :=
  ((splitOn '&' query.toList).filter (!·.isEmpty)).map decodePair

/-! ## Encoding -/

/-- The characters that stand for themselves. -/
def isSafe (c : Char) : Bool := c.isAlphanum || c == '*' || c == '-' || c == '.' || c == '_'

/-- What a character is written as. -/
def encodeChar (c : Char) : List Char :=
  if c = ' ' then ['+']
  else if isSafe c then [c]
  else (String.utf8EncodeChar c).flatMap Percent.encodeByte

/-- A name or a value. -/
def encodePart (s : String) : List Char := s.toList.flatMap encodeChar

/-- A name and its value. -/
def encodePair (pair : String × String) : List Char :=
  encodePart pair.1 ++ '=' :: encodePart pair.2

/-- The query string of a list of pairs. -/
def encode (pairs : List (String × String)) : String :=
  String.ofList (['&'].intercalate (pairs.map encodePair))

end BoxOffice.Http.Form
