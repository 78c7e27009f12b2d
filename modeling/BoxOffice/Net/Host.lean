import BoxOffice.Net.DomainName
import BoxOffice.Net.SocketAddress
import BoxOffice.Text.Percent

/-!
# Hosts of URLs

A host is an address of version six in brackets, or a name. `Host.readPlain` takes a name as it is
written. `Host.readDomain` reads the name of a computer in a network, in which percent signs stand for
bytes; one whose last label is a number is an address of version four.
-/

namespace BoxOffice.Net

open BoxOffice.Text

/-- What is wrong with a host. -/
inductive HostError where
  | missing
  | badIpv4
  | badIpv6
  | badCharacter
  | badName
  deriving Repr, DecidableEq

/-- The wording of a host error. -/
def HostError.message : HostError → String
  | .missing => "empty host"
  | .badIpv4 => "invalid IPv4 address"
  | .badIpv6 => "invalid IPv6 address"
  | .badCharacter => "invalid domain character"
  | .badName => "invalid international domain name"

namespace Host

/-- Checks what stands behind an opening bracket. -/
def checkBracketed (inner : List Char) : Except HostError Unit :=
  if inner.getLast? = some ']' && (Ipv6.read inner.dropLast).any (·.2.isEmpty) then .ok ()
  else .error .badIpv6

/-- The characters that may not stand in a plain name. -/
def isPlainBreaker (c : Char) : Bool :=
  ['\x00', '\t', '\n', '\r', ' ', '#', '/', ':', '<', '>', '?', '@', '[', '\\', ']', '^', '|'].contains c

/-- A host that is taken as it is written. -/
def readPlain (cs : List Char) : Except HostError (List Char) :=
  match cs with
  | '[' :: inner => (checkBracketed inner).map fun _ => cs
  | _ => if cs.any isPlainBreaker then .error .badCharacter else .ok cs

/-! ## Addresses of version four -/

/-- A digit of base eight. -/
def isOctalDigit (c : Char) : Bool := '0' ≤ c && c ≤ '7'

/-- The number that a label denotes: of base sixteen behind `0x`, of base eight behind another zero. -/
def numberOf? : List Char → Option Nat
  | [] => none
  | '0' :: 'x' :: ds => if ds.all isHexDigit then some (natOfHexDigits ds) else none
  | '0' :: d :: ds =>
    if (d :: ds).all isOctalDigit then some ((d :: ds).foldl (fun n c => n * 8 + digitValue c) 0)
    else none
  | ds => if ds.all isDigit then some (natOfDigits ds) else none

/-- The labels of a name. A point at the end adds none. -/
def labels (name : List Char) : List (List Char) :=
  match (splitOn '.' name).reverse with
  | [] :: before => before.reverse
  | all => all.reverse

/-- A name whose last label is a number, or looks like one. -/
def endsInNumber (name : List Char) : Bool :=
  match (labels name).getLast? with
  | some label => (!label.isEmpty && label.all isDigit) || (numberOf? label).isSome
  | none => false

/-- The address that numbers denote: one byte each, and the last all bytes that are left. -/
def ofNumbers? (ns : List Nat) : Option Ipv4 :=
  match ns.reverse with
  | last :: before =>
    if before.length < 4 && before.all (· < 256) && last < Nat.pow 256 (4 - before.length) then
      let n := before.reverse.foldl (fun n b => n * 256 + b) 0 * Nat.pow 256 (4 - before.length) + last
      some ⟨UInt8.ofNat (n / 16777216), UInt8.ofNat (n / 65536), UInt8.ofNat (n / 256), UInt8.ofNat n⟩
    else none
  | [] => none

/-! ## Names -/

/-- The name of a computer, or its address of version four. -/
def readName (cs : List Char) : Except HostError (List Char) := do
  let some cs := (Utf8.symbols (Percent.decode cs)).mapM id | throw .badName
  let some name := DomainName.read? cs | throw .badName
  if name.isEmpty then throw .missing
  if !endsInNumber name then return name
  match ((labels name).mapM numberOf?).bind ofNumbers? with
  | some ip => return ip.chars
  | none => throw .badIpv4

/-- The host of a computer in a network. -/
def readDomain (cs : List Char) : Except HostError (List Char) :=
  match cs with
  | '[' :: inner => (checkBracketed inner).map fun _ => cs
  | _ => readName cs

end Host

end BoxOffice.Net
