import BoxOffice.Json.Fault
import BoxOffice.Json.Value
import BoxOffice.Text.Numeral
import BoxOffice.Text.Utf8

/-!
# JSON tokens

`tokens` cuts a text into brackets, commas, colons, words, numbers and strings. It never fails: what is no
token becomes a token that carries its fault, and cutting stops there.

A text is looked at in two ways. A *careful* reader wants the value and checks everything; a *skipping*
reader only wants to get past a value. They differ inside strings (surrogate pairs and broken bytes), in
the range of numbers, and in the fault that they name where a number is cut off by the end of the text.
So some tokens keep both answers.
-/

namespace BoxOffice.Json

open BoxOffice.Text BoxOffice.Text.Utf8 BoxOffice.Number

/-- A token. `none` as a number stands for one that is out of range, an error as a string for one that only
a skipping reader accepts. The last two forms carry what a careful and what a skipping reader report. -/
inductive Token where
  | openBrace
  | closeBrace
  | openBracket
  | closeBracket
  | comma
  | colon
  | null
  | bool (b : Bool)
  | number (n : Option Number)
  | string (s : Except Fault String)
  | brokenString (careful skipping : Fault)
  | broken (careful skipping : Fault)

/-! ## Strings -/

/-- The longest prefix of ASCII digits, and the rest. -/
def spanDigits : List Symbol → List Char × List Symbol
  | some c :: rest =>
    if isDigit c then
      let (ds, rest') := spanDigits rest
      (c :: ds, rest')
    else ([], some c :: rest)
  | rest => ([], rest)

theorem length_spanDigits_le (cs : List Symbol) : (spanDigits cs).2.length ≤ cs.length := by
  fun_induction spanDigits cs with
  | case1 c rest hd ds rest' h ih => simp_all; omega
  | case2 => simp
  | case3 => simp

/-- The number that four digits of base sixteen denote. -/
def hexQuad? : Symbol → Symbol → Symbol → Symbol → Option Nat
  | some a, some b, some c, some d => do
    let a ← hexValue? a
    let b ← hexValue? b
    let c ← hexValue? c
    let d ← hexValue? d
    return ((a * 16 + b) * 16 + c) * 16 + d
  | _, _, _, _ => none

/-- The number of bytes of a list of symbols. -/
def byteCount (cs : List Symbol) : Nat := cs.foldl (fun n c => n + symbolSize c) 0

/-- The character of an escape of one letter. -/
def escapedChar? (c : Char) : Option Char :=
  match c with
  | '"' => some '"'
  | '\\' => some '\\'
  | '/' => some '/'
  | 'b' => some '\x08'
  | 'f' => some '\x0c'
  | 'n' => some '\n'
  | 'r' => some '\r'
  | 't' => some '\t'
  | _ => none

/-- Whether a code unit is the first half of a pair. -/
def isHighSurrogate (n : Nat) : Bool := 0xD800 ≤ n && n ≤ 0xDBFF

/-- Whether a code unit is the second half of a pair. -/
def isLowSurrogate (n : Nat) : Bool := 0xDC00 ≤ n && n ≤ 0xDFFF

/-- The character that a pair of code units denotes. -/
def pairChar (high low : Nat) : Char :=
  Char.ofNat ((high - 0xD800) * 0x400 + (low - 0xDC00) + 0x10000)

/-- What has been read of a string: its symbols (the last one first), the first half of a pair that waits
for its second, and the first fault that only a careful reader sees. -/
structure StringState where
  before : List Symbol := []
  high : Option Nat := none
  fault : Option Fault := none

namespace StringState

/-- Notes a fault, unless there is one already. -/
def note (s : StringState) (f : Fault) : StringState := { s with fault := s.fault <|> some f }

/-- A half of a pair that is still waiting will get no second half. -/
def settle (s : StringState) : StringState :=
  match s.high with
  | none => s
  | some _ => { s.note .unfinishedSurrogatePair with high := none }

/-- Adds a symbol that stands for itself or comes from a short escape. -/
def push (s : StringState) (c : Symbol) : StringState :=
  let s := s.settle
  { s with before := c :: s.before }

/-- Adds a code unit written in base sixteen. -/
def pushUnit (s : StringState) (n : Nat) : StringState :=
  match s.high with
  | some high =>
    if isLowSurrogate n then { s with before := some (pairChar high n) :: s.before, high := none }
    else { s.note .loneSurrogate with high := none }
  | none =>
    if isLowSurrogate n then s.note .loneSurrogate
    else if isHighSurrogate n then { s with high := some n }
    else { s with before := some (Char.ofNat n) :: s.before }

/-- The string token at the closing quote. -/
def finish (s : StringState) : Token :=
  let s := s.settle
  match s.fault with
  | some f => .string (.error f)
  | none =>
    match s.before.reverse.mapM id with
    | some cs => .string (.ok (String.ofList cs))
    | none => .string (.error .brokenText)

/-- The token of a string that cannot be read to its end. -/
def abort (s : StringState) (f : Fault) : Token := .brokenString (s.fault.getD f) f

end StringState

/-- Reads a string from behind its opening quote. Four bytes must follow the letter of a long escape, or the
text counts as ended. -/
def stringToken (s : StringState) : List Symbol → Token × List Symbol
  | [] => (s.abort .endInString, [])
  | some '"' :: rest => (s.finish, rest)
  | some '\\' :: [] => (s.abort .endInString, [])
  | some '\\' :: some 'u' :: a :: b :: c :: d :: rest =>
    match hexQuad? a b c d with
    | some n => stringToken (s.pushUnit n) rest
    | none => (s.abort .invalidEscape, [])
  | some '\\' :: some 'u' :: rest =>
    (s.abort (if byteCount rest < 4 then .endInString else .invalidEscape), [])
  | some '\\' :: some e :: rest =>
    match escapedChar? e with
    | some c => stringToken (s.push (some c)) rest
    | none => (s.settle.abort .invalidEscape, [])
  | some '\\' :: none :: _ => (s.settle.abort .invalidEscape, [])
  | some c :: rest =>
    if c.toNat < 0x20 then (s.settle.abort .controlCharacter, [])
    else stringToken (s.push (some c)) rest
  | none :: rest => stringToken (s.push none) rest

theorem length_stringToken_le (s : StringState) (cs : List Symbol) :
    (stringToken s cs).2.length ≤ cs.length := by
  fun_induction stringToken s cs <;> simp_all <;> omega

/-! ## Numbers -/

/-- The greatest significand that is kept exactly. -/
def greatestSignificand : Nat := UInt64.size - 1

/-- Adds digits before the point to a significand, as long as it fits; the digits that do not fit count in
the exponent. -/
def addWholeDigits (significand : Nat) (exponent : Int) : List Char → Nat × Int
  | [] => (significand, exponent)
  | d :: ds =>
    let next := significand * 10 + digitValue d
    if next ≤ greatestSignificand then addWholeDigits next exponent ds
    else (significand, exponent + (ds.length + 1))

/-- Adds digits behind the point to a significand, as long as it fits; the digits that do not fit are
dropped. -/
def addFractionDigits (significand : Nat) (exponent : Int) : List Char → Nat × Int
  | [] => (significand, exponent)
  | d :: ds =>
    let next := significand * 10 + digitValue d
    if next ≤ greatestSignificand then addFractionDigits next (exponent - 1) ds
    else (significand, exponent)

/-- The parts of a number as they are written. -/
structure NumberParts where
  negative : Bool
  whole : List Char
  fraction : List Char := []
  exponent : Int := 0
  plain : Bool := true

/-- The number that the parts denote; nothing if it is out of range. A plain numeral that fits 64 bits is a
whole number, but zero with a minus sign is not. -/
def NumberParts.number? (p : NumberParts) : Option Number :=
  let (significand, exponent) := addWholeDigits 0 0 p.whole
  let (significand, exponent) := addFractionDigits significand exponent p.fraction
  let real := (Double.ofDecimal? p.negative significand (exponent + p.exponent)).map Number.real
  if p.plain && exponent == 0 && !(p.negative && significand == 0) then
    match Whole.ofInt? (if p.negative then -(significand : Int) else significand) with
    | some n => some (.whole n)
    | none => real
  else real

/-- A number that the end of the text cuts off. -/
def cutOff : Token × List Symbol := (.broken .endInValue .invalidNumber, [])

/-- Something that looks like a number and is none. -/
def noNumber : Token × List Symbol := (.broken .invalidNumber .invalidNumber, [])

/-- Reads the exponent of a number from behind its letter. -/
def exponentToken (p : NumberParts) (cs : List Symbol) : Token × List Symbol :=
  let (negative, cs) :=
    match cs with
    | some '+' :: rest => (false, rest)
    | some '-' :: rest => (true, rest)
    | rest => (false, rest)
  match spanDigits cs with
  | ([], []) => cutOff
  | ([], _) => noNumber
  | (ds, rest) =>
    let e : Int := natOfDigits ds
    (.number { p with exponent := if negative then -e else e, plain := false }.number?, rest)

/-- Reads what may follow the digits before and behind the point. -/
def numberEnd (p : NumberParts) (cs : List Symbol) : Token × List Symbol :=
  match cs with
  | some 'e' :: rest => exponentToken p rest
  | some 'E' :: rest => exponentToken p rest
  | rest => (.number p.number?, rest)

/-- Reads a number from behind its first digits. -/
def numberTail (p : NumberParts) (cs : List Symbol) : Token × List Symbol :=
  match cs with
  | some '.' :: rest =>
    match spanDigits rest with
    | ([], []) => cutOff
    | ([], _) => noNumber
    | (ds, rest) => numberEnd { p with fraction := ds, plain := false } rest
  | rest => numberEnd p rest

/-- Reads a number from behind its sign. A leading zero stands alone. -/
def numberToken (negative : Bool) (cs : List Symbol) : Token × List Symbol :=
  match spanDigits cs with
  | ([], []) => cutOff
  | ([], _) => noNumber
  | (['0'], rest) => numberTail { negative, whole := ['0'] } rest
  | ('0' :: _, _) => noNumber
  | (ds, rest) => numberTail { negative, whole := ds } rest

theorem length_exponentToken_le (p : NumberParts) (cs : List Symbol) :
    (exponentToken p cs).2.length ≤ cs.length := by
  unfold exponentToken
  split
  split <;> rename_i h <;> simp [cutOff, noNumber]
  all_goals
    have := congrArg (fun x => x.2.length) h
    simp only at this
    have := length_spanDigits_le
    grind

theorem length_numberEnd_le (p : NumberParts) (cs : List Symbol) :
    (numberEnd p cs).2.length ≤ cs.length := by
  unfold numberEnd
  split
  · exact Nat.le_succ_of_le (length_exponentToken_le p _)
  · exact Nat.le_succ_of_le (length_exponentToken_le p _)
  · simp

theorem length_numberTail_le (p : NumberParts) (cs : List Symbol) :
    (numberTail p cs).2.length ≤ cs.length := by
  unfold numberTail
  split
  · rename_i rest
    have h := length_spanDigits_le rest
    split <;> rename_i h'
    · simp [cutOff]
    · simp [noNumber]
    · rw [h'] at h
      have := length_numberEnd_le
      grind
  · exact length_numberEnd_le p _

theorem length_numberToken_le (negative : Bool) (cs : List Symbol) :
    (numberToken negative cs).2.length ≤ cs.length := by
  have h := length_spanDigits_le cs
  have tail := length_numberTail_le
  unfold numberToken
  split <;> rename_i h'
  · simp [cutOff]
  · simp [noNumber]
  · rw [h'] at h; exact Nat.le_trans (tail _ _) h
  · simp [noNumber]
  · rw [h'] at h; exact Nat.le_trans (tail _ _) h

/-! ## Words and marks -/

/-- Reads the rest of a word. -/
def wordToken (t : Token) : List Char → List Symbol → Token × List Symbol
  | [], rest => (t, rest)
  | _ :: _, [] => (.broken .endInValue .endInValue, [])
  | c :: cs, s :: rest =>
    if s = some c then wordToken t cs rest else (.broken .expectedWord .expectedWord, [])

theorem length_wordToken_le (t : Token) (cs : List Char) (rest : List Symbol) :
    (wordToken t cs rest).2.length ≤ rest.length := by
  fun_induction wordToken t cs rest <;> simp_all
  omega

/-- The characters that may stand between tokens. -/
def isGap (c : Char) : Bool := c == ' ' || c == '\n' || c == '\t' || c == '\r'

/-- The token that starts with a given symbol, and the symbols behind it. -/
def tokenAt (s : Symbol) (rest : List Symbol) : Token × List Symbol :=
  match s with
  | some '\x7b' => (.openBrace, rest)
  | some '\x7d' => (.closeBrace, rest)
  | some '[' => (.openBracket, rest)
  | some ']' => (.closeBracket, rest)
  | some ',' => (.comma, rest)
  | some ':' => (.colon, rest)
  | some '"' => stringToken {} rest
  | some '-' => numberToken true rest
  | some 'n' => wordToken .null ['u', 'l', 'l'] rest
  | some 't' => wordToken (.bool true) ['r', 'u', 'e'] rest
  | some 'f' => wordToken (.bool false) ['a', 'l', 's', 'e'] rest
  | some c => if isDigit c then numberToken false (some c :: rest)
    else (.broken .expectedValue .expectedValue, [])
  | none => (.broken .expectedValue .expectedValue, [])

theorem length_numberToken_digit_le {c : Char} (h : isDigit c = true) (rest : List Symbol) :
    (numberToken false (some c :: rest)).2.length ≤ rest.length := by
  have hl := length_spanDigits_le rest
  have tail := length_numberTail_le
  have hs : spanDigits (some c :: rest) = (c :: (spanDigits rest).1, (spanDigits rest).2) := by
    simp [spanDigits, h]
  unfold numberToken
  rw [hs]
  split <;> rename_i h' <;> simp only [Prod.mk.injEq, reduceCtorEq, false_and] at h'
  · rw [← h'.2]; exact Nat.le_trans (tail _ _) hl
  · simp [noNumber]
  · rw [← h'.2]; exact Nat.le_trans (tail _ _) hl

theorem length_tokenAt_le (s : Symbol) (rest : List Symbol) :
    (tokenAt s rest).2.length ≤ rest.length := by
  unfold tokenAt
  split <;>
    first
    | exact Nat.le_refl _
    | exact length_stringToken_le _ _
    | exact length_numberToken_le _ _
    | exact length_wordToken_le _ _ _
    | skip
  · split
    · rename_i h; exact length_numberToken_digit_le h rest
    · simp
  · simp

/-- The tokens of a text. -/
def tokens : List Symbol → List Token
  | [] => []
  | s :: rest =>
    if s.any isGap then tokens rest
    else (tokenAt s rest).1 :: tokens (tokenAt s rest).2
termination_by cs => cs.length
decreasing_by
  · simp
  · have := length_tokenAt_le s rest
    simp only [List.length_cons]
    omega

end BoxOffice.Json
