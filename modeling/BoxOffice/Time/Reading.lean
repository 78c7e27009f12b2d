import BoxOffice.Text.Blank
import BoxOffice.Time.Timestamp

/-!
# Reading timestamps

The accepted form is a date, a separator, a time of day and an offset. It is lenient: blanks may stand
before numbers and around marks, fields may have fewer digits, the year may be signed and long, the offset
may lack its colon. The fields are read from left to right; the first cause for which the
text is refused is reported, and whether the day exists is asked last.
-/

namespace BoxOffice.Time

open BoxOffice.Text

/-- Why a text is no timestamp. -/
inductive TimestampError where
  | invalid
  | outOfRange
  | tooShort
  | trailing
  | impossible
  deriving Repr, DecidableEq

/-- The wording of a `TimestampError`. -/
def TimestampError.message : TimestampError → String
  | .invalid => "input contains invalid characters"
  | .outOfRange => "input is out of range"
  | .tooShort => "premature end of input"
  | .trailing => "trailing input"
  | .impossible => "no possible date and time matching input"

/-- The digits at the start, at most `most` of them. -/
def takeDigits (most : Nat) (cs : List Char) : List Char := (cs.take most).takeWhile isDigit

/-- A number of one to `most` digits. -/
def number (most : Nat) (cs : List Char) : Except TimestampError (Nat × List Char) :=
  match cs, takeDigits most cs with
  | [], _ => .error .tooShort
  | _ :: _, [] => .error .invalid
  | cs, ds => .ok (natOfDigits ds, cs.drop ds.length)

/-- A number of one or two digits between `low` and `high`, after blanks. -/
def field (low high : Nat) (cs : List Char) : Except TimestampError (Nat × List Char) := do
  let (n, rest) ← number 2 (dropBlanks cs)
  if low ≤ n ∧ n ≤ high then .ok (n, rest) else .error .outOfRange

/-- A year as it is written must fit 32 bits. -/
def yearOf (year : Int) (rest : List Char) : Except TimestampError (Int × List Char) :=
  if Int32.minValue.toInt ≤ year ∧ year ≤ Int32.maxValue.toInt then .ok (year, rest) else .error .outOfRange

/-- A year, after blanks: up to four digits, or a sign and any number of digits. -/
def yearField (cs : List Char) : Except TimestampError (Int × List Char) :=
  match dropBlanks cs with
  | '-' :: rest => do
    let (n, rest) ← number rest.length rest
    yearOf (-(n : Int)) rest
  | '+' :: rest => do
    let (n, rest) ← number rest.length rest
    yearOf n rest
  | rest => do
    let (n, rest) ← number 4 rest
    yearOf n rest

/-- A mark, after blanks. -/
def mark (c : Char) (cs : List Char) : Except TimestampError (List Char) :=
  match dropBlanks cs with
  | [] => .error .tooShort
  | d :: rest => if d = c then .ok rest else .error .invalid

/-- The mark between the date and the time of day. -/
def separator : List Char → Except TimestampError (List Char)
  | [] => .error .tooShort
  | 'T' :: rest => .ok rest
  | 't' :: rest => .ok rest
  | ' ' :: rest => .ok rest
  | _ :: _ => .error .invalid

/-- A fraction of a second in nanoseconds, if one is there. Digits beyond the ninth are dropped. -/
def fraction : List Char → Except TimestampError (Nat × List Char)
  | '.' :: rest => do
    let (n, after) ← number 9 rest
    let digits := rest.length - after.length
    .ok (n * Nat.pow 10 (9 - digits), after.dropWhile isDigit)
  | cs => .ok (0, cs)

/-- Two digits, of which the first is at most `high`. A lone ASCII character is taken for the start of a
number that is cut off. -/
def twoDigits (high : Char) : List Char → Except TimestampError (Nat × List Char)
  | [] => .error .tooShort
  | [c] => if c.toNat < 0x80 then .error .tooShort else .error .invalid
  | c :: d :: rest =>
    if isDigit c && isDigit d then
      if c ≤ high then .ok (digitValue c * 10 + digitValue d, rest) else .error .outOfRange
    else .error .invalid

/-- The hours and minutes of an offset, behind its sign, in minutes; blanks and colons may stand between the
two. -/
def offsetMinutes (cs : List Char) : Except TimestampError (Nat × List Char) := do
  let (hours, rest) ← twoDigits '9' cs
  let (minutes, rest) ← twoDigits '5' (rest.dropWhile fun c => c == ':' || isBlank c)
  .ok (hours * 60 + minutes, rest)

/-- An offset from universal time in minutes: `Z`, `UTC` in any case, or a sign with hours and minutes. -/
def offsetField (cs : List Char) : Except TimestampError (Int × List Char) :=
  match dropBlanks cs with
  | [] => .error .tooShort
  | 'Z' :: rest => .ok (0, rest)
  | 'z' :: rest => .ok (0, rest)
  | '+' :: rest => do
    let (n, rest) ← offsetMinutes rest
    .ok (n, rest)
  | '-' :: rest => do
    let (n, rest) ← offsetMinutes rest
    .ok (-(n : Int), rest)
  | '\u2212' :: rest => do
    let (n, rest) ← offsetMinutes rest
    .ok (-(n : Int), rest)
  | u :: t :: c :: rest =>
    if u.toUpper = 'U' ∧ t.toUpper = 'T' ∧ c.toUpper = 'C' then .ok (0, rest) else .error .invalid
  | _ => .error .invalid

/-- The fields of a timestamp as they are written. -/
structure Fields where
  date : Date
  clock : Clock
  offset : Int
  deriving Repr, DecidableEq

/-- The date at the start of a text. -/
def dateField (cs : List Char) : Except TimestampError (Date × List Char) := do
  let (year, cs) ← yearField cs
  let cs ← mark '-' cs
  let (month, cs) ← field 1 12 cs
  let cs ← mark '-' cs
  let (day, cs) ← field 1 31 cs
  .ok (⟨year, month, day⟩, cs)

/-- The time of day at the start of a text. -/
def clockField (cs : List Char) : Except TimestampError (Clock × List Char) := do
  let (hour, cs) ← field 0 23 cs
  let cs ← mark ':' cs
  let (minute, cs) ← field 0 59 cs
  let cs ← mark ':' cs
  let (second, cs) ← field 0 60 cs
  let (nano, cs) ← fraction cs
  .ok (⟨hour, minute, second, nano⟩, cs)

/-- The fields of a text. -/
def Fields.read (cs : List Char) : Except TimestampError Fields := do
  let (date, cs) ← dateField cs
  let cs ← separator cs
  let (clock, cs) ← clockField cs
  let (offset, cs) ← offsetField cs
  if dropBlanks cs = [] then .ok ⟨date, clock, offset⟩ else .error .trailing

/-- The moment of some fields in universal time. The offset must be less than a day, so the day changes by
at most one. -/
def Fields.moment (f : Fields) : Except TimestampError Timestamp :=
  let minutes : Int := f.clock.hour * 60 + f.clock.minute - f.offset
  let date := if minutes < 0 then f.date.pred else if 1440 ≤ minutes then f.date.succ else f.date
  let ofDay := (minutes % 1440).toNat
  let clock := { f.clock with hour := ofDay / 60, minute := ofDay % 60 }
  if ¬f.date.IsValid then .error .outOfRange
  else if ¬(-1440 < f.offset ∧ f.offset < 1440) then .error .outOfRange
  else if hd : date.IsValid then
    if hc : clock.IsValid then .ok ⟨date, clock, hd, hc⟩ else .error .outOfRange
  else .error .impossible

/-- Reads a timestamp. -/
def Timestamp.read (s : String) : Except TimestampError Timestamp := do
  let fields ← Fields.read s.toList
  fields.moment

end BoxOffice.Time
