/-!
# Numerals

Writing and reading whole numbers in base ten, and reading digits of other bases. The readers of bounded
numbers tell apart a text that is no numeral from a numeral that is too large.
-/

namespace BoxOffice.Text

/-- The digits of a number, the leading one first. -/
def natDigits (n : Nat) : List Char := Nat.toDigits 10 n

/-- A number with a minus sign where it is negative. -/
def intChars (n : Int) : List Char :=
  if n < 0 then '-' :: natDigits n.natAbs else natDigits n.natAbs

/-- `intChars` as a text. -/
def intText (n : Int) : String := String.ofList (intChars n)

/-- An ASCII digit. -/
def isDigit (c : Char) : Bool := '0' ≤ c && c ≤ '9'

/-- The value of an ASCII digit. -/
def digitValue (c : Char) : Nat := c.toNat - '0'.toNat

/-- The value of a digit of base sixteen, in either case. -/
def hexValue? (c : Char) : Option Nat :=
  if isDigit c then some (digitValue c)
  else if 'a' ≤ c && c ≤ 'f' then some (c.toNat - 'a'.toNat + 10)
  else if 'A' ≤ c && c ≤ 'F' then some (c.toNat - 'A'.toNat + 10)
  else none

/-- A digit of base sixteen. -/
def isHexDigit (c : Char) : Bool := (hexValue? c).isSome

/-- The number that digits of base sixteen denote. -/
def natOfHexDigits (cs : List Char) : Nat := cs.foldl (fun n c => n * 16 + (hexValue? c).getD 0) 0

/-- A digit of base sixteen in lower case. -/
def hexDigit (n : Nat) : Char :=
  if n < 10 then Char.ofNat ('0'.toNat + n) else Char.ofNat ('a'.toNat + (n - 10))

/-- The number that a list of digits denotes. -/
def natOfDigits (ds : List Char) : Nat := ds.foldl (fun n d => n * 10 + digitValue d) 0

/-- Why a text is no number of the range asked for. -/
inductive NumeralError where
  | noDigits
  | badDigit
  | tooLarge
  | tooSmall
  deriving Repr, DecidableEq

/-- The wording of a `NumeralError`. -/
def NumeralError.message : NumeralError → String
  | .noDigits => "cannot parse integer from empty string"
  | .badDigit => "invalid digit found in string"
  | .tooLarge => "number too large to fit in target type"
  | .tooSmall => "number too small to fit in target type"

/-- A list of digits as a number of at most `most`. The digits are read from the left, so a character that
is no digit is reported only if the number before it still fits. -/
def boundedDigits (most : Nat) (ds : List Char) : Except NumeralError Nat :=
  ds.foldlM (fun n d =>
    if isDigit d then
      let next := n * 10 + digitValue d
      if next ≤ most then .ok next else .error .tooLarge
    else .error .badDigit) 0

/-- A numeral of at most `most`, with an optional plus sign. -/
def boundedNat (most : Nat) (cs : List Char) : Except NumeralError Nat :=
  match cs with
  | [] => .error .noDigits
  | ['+'] => .error .badDigit
  | ['-'] => .error .badDigit
  | '+' :: ds => boundedDigits most ds
  | ds => boundedDigits most ds

/-- A numeral of the 64-bit integers, with an optional sign. -/
def int64Numeral (cs : List Char) : Except NumeralError Int :=
  match cs with
  | ['-'] => .error .badDigit
  | '-' :: ds =>
    match boundedDigits 9223372036854775808 ds with
    | .ok n => .ok (-(n : Int))
    | .error .tooLarge => .error .tooSmall
    | .error e => .error e
  | cs => (boundedNat 9223372036854775807 cs).map Int.ofNat

/-- The signed 64-bit integer that a numeral denotes. -/
def int64Of? (cs : List Char) : Option Int64 :=
  match int64Numeral cs with
  | .ok n => some (Int64.ofInt n)
  | .error _ => none

end BoxOffice.Text
