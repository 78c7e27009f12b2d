import BoxOffice.Text.Numeral
import BoxOffice.Text.Utf8

/-!
# Percent encoding

A byte may be written as a percent sign and two digits of base sixteen. A percent sign that is followed by
anything else stands for itself.
-/

namespace BoxOffice.Text.Percent

/-- The bytes of a text in which bytes may be written with percent signs. -/
def decode : List Char → List UInt8
  | [] => []
  | '%' :: a :: b :: rest =>
    match hexValue? a, hexValue? b with
    | some high, some low => UInt8.ofNat (high * 16 + low) :: decode rest
    | _, _ => 0x25 :: decode (a :: b :: rest)
  | c :: rest => String.utf8EncodeChar c ++ decode rest

/-- A digit of base sixteen in upper case. -/
def upperHexDigit (n : Nat) : Char := (hexDigit n).toUpper

/-- A byte as a percent sign and two digits. -/
def encodeByte (b : UInt8) : List Char :=
  ['%', upperHexDigit (b.toNat / 16), upperHexDigit (b.toNat % 16)]

end BoxOffice.Text.Percent
