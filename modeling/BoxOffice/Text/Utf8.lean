/-!
# UTF-8

1. `encode` writes a text as bytes.
2. `chunks` cuts any list of bytes into characters and broken stretches. A broken stretch is as long as
   the longest beginning of some character's encoding, or one byte.
3. `symbols` keeps one mark per broken byte, for readers that report where a text is broken;
   `decodeLossy` puts one replacement character for each broken stretch.
4. `decode` refuses bytes with a broken stretch, and tells where the first is.
-/

namespace BoxOffice.Text.Utf8

/-- The bytes of a text. -/
def encode (s : String) : List UInt8 := s.toList.flatMap String.utf8EncodeChar

/-- The number of bytes of a text. -/
def size (s : String) : Nat := (encode s).length

/-- The start of a list of bytes: a character with the number of bytes it takes, or a broken stretch of
that many bytes. The number counts the bytes after the first. -/
inductive Chunk where
  | char (c : Char) (extra : Nat)
  | broken (extra : Nat)
  deriving Repr, DecidableEq

/-- Bytes that may follow the first byte of a character. -/
def isContinuation (b : UInt8) : Bool := 0x80 ≤ b && b ≤ 0xBF

/-- The six bits that a following byte carries. -/
def payload (b : UInt8) : Nat := b.toNat % 64

/-- The second bytes that may follow the first byte of a three-byte character: no overlong form, no
surrogate. -/
def isSecondOfThree (b₀ b₁ : UInt8) : Bool :=
  if b₀ = 0xE0 then 0xA0 ≤ b₁ && b₁ ≤ 0xBF
  else if b₀ = 0xED then 0x80 ≤ b₁ && b₁ ≤ 0x9F
  else isContinuation b₁

/-- The second bytes that may follow the first byte of a four-byte character: no overlong form, nothing
above the last code point. -/
def isSecondOfFour (b₀ b₁ : UInt8) : Bool :=
  if b₀ = 0xF0 then 0x90 ≤ b₁ && b₁ ≤ 0xBF
  else if b₀ = 0xF4 then 0x80 ≤ b₁ && b₁ ≤ 0x8F
  else isContinuation b₁

/-- What the bytes `b₀ :: rest` start with. -/
def chunk (b₀ : UInt8) (rest : List UInt8) : Chunk :=
  if b₀ ≤ 0x7F then .char (Char.ofNat b₀.toNat) 0
  else if 0xC2 ≤ b₀ && b₀ ≤ 0xDF then
    match rest with
    | b₁ :: _ =>
      if isContinuation b₁ then .char (Char.ofNat (b₀.toNat % 32 * 64 + payload b₁)) 1 else .broken 0
    | [] => .broken 0
  else if 0xE0 ≤ b₀ && b₀ ≤ 0xEF then
    match rest with
    | b₁ :: b₂ :: _ =>
      if !isSecondOfThree b₀ b₁ then .broken 0
      else if !isContinuation b₂ then .broken 1
      else .char (Char.ofNat ((b₀.toNat % 16 * 64 + payload b₁) * 64 + payload b₂)) 2
    | b₁ :: [] => if isSecondOfThree b₀ b₁ then .broken 1 else .broken 0
    | [] => .broken 0
  else if 0xF0 ≤ b₀ && b₀ ≤ 0xF4 then
    match rest with
    | b₁ :: b₂ :: b₃ :: _ =>
      if !isSecondOfFour b₀ b₁ then .broken 0
      else if !isContinuation b₂ then .broken 1
      else if !isContinuation b₃ then .broken 2
      else
        .char
          (Char.ofNat (((b₀.toNat % 8 * 64 + payload b₁) * 64 + payload b₂) * 64 + payload b₃)) 3
    | b₁ :: b₂ :: [] =>
      if !isSecondOfFour b₀ b₁ then .broken 0
      else if isContinuation b₂ then .broken 2 else .broken 1
    | b₁ :: [] => if isSecondOfFour b₀ b₁ then .broken 1 else .broken 0
    | [] => .broken 0
  else .broken 0

/-- The number of bytes of a chunk after its first. -/
def Chunk.extra : Chunk → Nat
  | .char _ n => n
  | .broken n => n

/-- The characters and broken stretches of a list of bytes, in order. -/
def chunks : List UInt8 → List Chunk
  | [] => []
  | b :: rest => chunk b rest :: chunks (rest.drop (chunk b rest).extra)
termination_by bs => bs.length
decreasing_by rw [List.length_drop, List.length_cons]; omega

/-- A character, or `none` for a byte that belongs to no character. -/
abbrev Symbol := Option Char

/-- The number of bytes that a symbol stands for. -/
def symbolSize : Symbol → Nat
  | some c => c.utf8Size
  | none => 1

/-- The symbols of a text, which has no broken byte. -/
def symbolsOfText (s : String) : List Symbol := s.toList.map some

/-- The symbols of a chunk: its character, or a mark for each of its bytes. -/
def Chunk.symbols : Chunk → List Symbol
  | .char c _ => [some c]
  | .broken n => List.replicate (n + 1) none

/-- The symbols of a list of bytes. -/
def symbols (bytes : List UInt8) : List Symbol := (chunks bytes).flatMap Chunk.symbols

/-- Stands for a broken stretch. -/
def replacement : Char := '\uFFFD'

/-- The character that a chunk is read as. -/
def Chunk.toChar : Chunk → Char
  | .char c _ => c
  | .broken _ => replacement

/-- The text of a list of bytes, each broken stretch read as one replacement character. -/
def decodeLossy (bytes : List UInt8) : String := String.ofList ((chunks bytes).map Chunk.toChar)

/-! ## Bytes that have to be a text -/

/-- The first broken stretch of some bytes: where it starts and how long it is. There is no length where the
bytes end before the character does. -/
structure Break where
  index : Nat
  length : Option Nat
  deriving Repr, DecidableEq

/-- The wording of a break. -/
def Break.message (e : Break) : String :=
  match e.length with
  | some n =>
    "invalid utf-8 sequence of " ++ toString n ++ " bytes from index " ++ toString e.index
  | none => "incomplete utf-8 byte sequence from index " ++ toString e.index

/-- The first byte of a character of several bytes. -/
def isLead (b : UInt8) : Bool := 0xC2 ≤ b && b ≤ 0xF4

/-- The first broken stretch of bytes that start at `index`. -/
def break? (index : Nat) : List UInt8 → Option Break
  | [] => none
  | b :: rest =>
    match chunk b rest with
    | .char _ extra => break? (index + extra + 1) (rest.drop extra)
    | .broken extra =>
      if extra = rest.length && isLead b then some ⟨index, none⟩ else some ⟨index, some (extra + 1)⟩
termination_by bs => bs.length
decreasing_by rw [List.length_drop, List.length_cons]; omega

/-- The text of a list of bytes. -/
def decode (bytes : List UInt8) : Except Break String :=
  match break? 0 bytes with
  | some e => .error e
  | none => .ok (decodeLossy bytes)

end BoxOffice.Text.Utf8
