import BoxOffice.Json.Value
import BoxOffice.Number.Shortest

/-!
# Printing JSON

The compact text of a value: no blanks, members in the order of their list. In strings only the quote, the
backslash and the control characters are escaped, five of the controls by a letter.
-/

namespace BoxOffice.Json

open BoxOffice.Text BoxOffice.Number

/-- What a character is written as inside a string. -/
def escapeChar (c : Char) : List Char :=
  match c with
  | '"' => ['\\', '"']
  | '\\' => ['\\', '\\']
  | '\x08' => ['\\', 'b']
  | '\x0c' => ['\\', 'f']
  | '\n' => ['\\', 'n']
  | '\r' => ['\\', 'r']
  | '\t' => ['\\', 't']
  | c =>
    if c.toNat < 0x20 then
      ['\\', 'u', '0', '0', hexDigit (c.toNat / 16), hexDigit (c.toNat % 16)]
    else [c]

/-- A string between its quotes. -/
def stringChars (s : String) : List Char := '"' :: s.toList.flatMap escapeChar ++ ['"']

/-- The text of a number. -/
def Number.chars : Number → List Char
  | .whole n => intChars n.val
  | .real x => x.text.toList

mutual

/-- The characters of a value. -/
def Value.chars : Value → List Char
  | .null => ['n', 'u', 'l', 'l']
  | .bool true => ['t', 'r', 'u', 'e']
  | .bool false => ['f', 'a', 'l', 's', 'e']
  | .number n => n.chars
  | .string s => stringChars s
  | .array items => '[' :: itemChars items ++ [']']
  | .object members => '\x7b' :: memberChars members ++ ['\x7d']

/-- The items of an array, with commas between them. -/
def itemChars : List Value → List Char
  | [] => []
  | [v] => v.chars
  | v :: w :: rest => v.chars ++ ',' :: itemChars (w :: rest)

/-- The members of an object, with commas between them. -/
def memberChars : List (String × Value) → List Char
  | [] => []
  | [(name, v)] => stringChars name ++ ':' :: v.chars
  | (name, v) :: m :: rest => stringChars name ++ ':' :: v.chars ++ ',' :: memberChars (m :: rest)

end

/-- The compact text of a value. -/
def Value.text (v : Value) : String := String.ofList v.chars

end BoxOffice.Json
