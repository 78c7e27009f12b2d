import BoxOffice.Text.Numeral

/-!
# Timestamps

A `Timestamp` is a moment in universal time, given by the fields of the calendar and the clock. The second
may be 60, and fractions go down to the nanosecond. `Timestamp.text` writes it; reading is in
`BoxOffice.Time.Reading`.
-/

namespace BoxOffice.Time

open BoxOffice.Text

/-! ## The calendar -/

/-- Every fourth year is a leap year, but of the full centuries only every fourth. -/
def isLeapYear (year : Int) : Bool := year % 4 == 0 && (year % 100 != 0 || year % 400 == 0)

/-- The number of days of a month. -/
def daysInMonth (year : Int) (month : Nat) : Nat :=
  match month with
  | 2 => if isLeapYear year then 29 else 28
  | 4 | 6 | 9 | 11 => 30
  | _ => 31

/-- The first year that a date may have. -/
def firstYear : Int := -262143

/-- The last year that a date may have. -/
def lastYear : Int := 262142

/-- A day of the calendar. -/
structure Date where
  year : Int
  month : Nat
  day : Nat
  deriving Repr, DecidableEq

/-- The day exists and its year is in range. -/
def Date.IsValid (d : Date) : Prop :=
  firstYear ≤ d.year ∧ d.year ≤ lastYear ∧ 1 ≤ d.month ∧ d.month ≤ 12 ∧ 1 ≤ d.day ∧
    d.day ≤ daysInMonth d.year d.month

instance (d : Date) : Decidable d.IsValid := by unfold Date.IsValid; infer_instance

/-- The day before. -/
def Date.pred (d : Date) : Date :=
  if 1 < d.day then { d with day := d.day - 1 }
  else if 1 < d.month then ⟨d.year, d.month - 1, daysInMonth d.year (d.month - 1)⟩
  else ⟨d.year - 1, 12, 31⟩

/-- The day after. -/
def Date.succ (d : Date) : Date :=
  if d.day < daysInMonth d.year d.month then { d with day := d.day + 1 }
  else if d.month < 12 then ⟨d.year, d.month + 1, 1⟩
  else ⟨d.year + 1, 1, 1⟩

/-! ## Moments -/

/-- A time of day. -/
structure Clock where
  hour : Nat
  minute : Nat
  second : Nat
  nano : Nat
  deriving Repr, DecidableEq

/-- The fields are in range; the second 60 is allowed in every minute. -/
def Clock.IsValid (c : Clock) : Prop :=
  c.hour < 24 ∧ c.minute < 60 ∧ c.second ≤ 60 ∧ c.nano < 1000000000

instance (c : Clock) : Decidable c.IsValid := by unfold Clock.IsValid; infer_instance

/-- A moment in universal time. -/
structure Timestamp where
  date : Date
  clock : Clock
  date_valid : date.IsValid
  clock_valid : clock.IsValid
  deriving Repr, DecidableEq

/-! ## Writing -/

/-- A number with leading zeros up to a given number of digits. -/
def padded (width n : Nat) : List Char :=
  let ds := natDigits n
  List.replicate (width - ds.length) '0' ++ ds

/-- Four digits for the years 0 to 9999, and a sign before at least four digits for all others. -/
def yearChars (year : Int) : List Char :=
  if 0 ≤ year ∧ year ≤ 9999 then padded 4 year.natAbs
  else (if year < 0 then '-' else '+') :: padded 4 year.natAbs

/-- A fraction of a second: nothing, or a point and three, six or nine digits, as few as hold it. -/
def fractionChars (nano : Nat) : List Char :=
  if nano = 0 then []
  else if nano % 1000000 = 0 then '.' :: padded 3 (nano / 1000000)
  else if nano % 1000 = 0 then '.' :: padded 6 (nano / 1000)
  else '.' :: padded 9 nano

/-- The characters of a timestamp. -/
def Timestamp.chars (t : Timestamp) : List Char :=
  yearChars t.date.year ++ '-' :: padded 2 t.date.month ++ '-' :: padded 2 t.date.day ++
    'T' :: padded 2 t.clock.hour ++ ':' :: padded 2 t.clock.minute ++
    ':' :: padded 2 t.clock.second ++ fractionChars t.clock.nano ++ ['Z']

/-- The text of a timestamp. -/
def Timestamp.text (t : Timestamp) : String := String.ofList t.chars

end BoxOffice.Time
