import BoxOffice.Text.Numeral

/-!
# Socket addresses

An IP address of version four or six with a port. Addresses of version six stand in brackets; a pair of colons
in one stands for a run of zero groups, its last two groups may be written as an address of version four, and a
scope may follow. `SocketAddress.parse?` reads every form, `SocketAddress.text` writes one of them.
-/

namespace BoxOffice.Net

open BoxOffice.Text

/-- An address of version four. -/
structure Ipv4 where
  a : UInt8
  b : UInt8
  c : UInt8
  d : UInt8
  deriving Repr, DecidableEq

/-- An address of version six: eight groups of sixteen bits. -/
structure Ipv6 where
  groups : List UInt16
  length_groups : groups.length = 8
  deriving DecidableEq

/-- An address with a port, and with a scope where it is of version six. -/
inductive SocketAddress where
  | v4 (ip : Ipv4) (port : UInt16)
  | v6 (ip : Ipv6) (scope : UInt32) (port : UInt16)
  deriving DecidableEq

/-! ## Reading -/

/-- Takes one character. -/
def expect (c : Char) : List Char → Option (List Char)
  | d :: cs => if d = c then some cs else none
  | [] => none

/-- A number of at most three digits that fits eight bits, without a leading zero. -/
def octet (cs : List Char) : Option (UInt8 × List Char) :=
  let digits := cs.takeWhile isDigit
  if digits.isEmpty || 3 < digits.length || (digits.head? == some '0' && 1 < digits.length) then none
  else
    let n := natOfDigits digits
    if n < UInt8.size then some (UInt8.ofNat n, cs.dropWhile isDigit) else none

/-- A number of at most four digits of base sixteen. -/
def hexGroup (cs : List Char) : Option (UInt16 × List Char) :=
  let digits := cs.takeWhile isHexDigit
  if digits.isEmpty || 4 < digits.length then none
  else some (UInt16.ofNat (natOfHexDigits digits), cs.dropWhile isHexDigit)

/-- A number below a bound, with any number of digits. -/
def decimal (bound : Nat) (cs : List Char) : Option (Nat × List Char) :=
  let digits := cs.takeWhile isDigit
  let n := natOfDigits digits
  if !digits.isEmpty && n < bound then some (n, cs.dropWhile isDigit) else none

/-- A port behind its colon. -/
def port (cs : List Char) : Option (UInt16 × List Char) := do
  let (n, cs) ← decimal UInt16.size (← expect ':' cs)
  return (UInt16.ofNat n, cs)

/-- A scope behind its percent sign; zero if there is none. -/
def scope (cs : List Char) : UInt32 × List Char :=
  match (expect '%' cs).bind (decimal UInt32.size) with
  | some (n, cs) => (UInt32.ofNat n, cs)
  | none => (0, cs)

namespace Ipv4

/-- Four numbers with dots between them. -/
def read (cs : List Char) : Option (Ipv4 × List Char) := do
  let (a, cs) ← octet cs
  let (b, cs) ← octet (← expect '.' cs)
  let (c, cs) ← octet (← expect '.' cs)
  let (d, cs) ← octet (← expect '.' cs)
  return (⟨a, b, c, d⟩, cs)

/-- The two groups that an address of version four makes. -/
def toGroups (ip : Ipv4) : List UInt16 :=
  [ip.a.toUInt16 * 256 + ip.b.toUInt16, ip.c.toUInt16 * 256 + ip.d.toUInt16]

end Ipv4

namespace Ipv6

/-- What may stand at a place among groups: the groups it makes. -/
structure Place where
  groups : List UInt16
  isIpv4 : Bool

/-- What stands at the next place, of which `room` are left: a group, or an address of version four where
that many groups are left. -/
def place (room : Nat) (cs : List Char) : Option (Place × List Char) :=
  match if 2 ≤ room then Ipv4.read cs else none with
  | some (ip, cs) => some (⟨ip.toGroups, true⟩, cs)
  | none => (hexGroup cs).map fun (g, cs) => (⟨[g], false⟩, cs)

/-- At most `room` groups with colons between them, as many as there are. An address of version four ends
them; the flag tells whether there is one. -/
def readGroups (first : Bool) : Nat → List Char → List UInt16 × Bool × List Char
  | 0, cs => ([], false, cs)
  | room + 1, cs =>
    match (if first then some cs else expect ':' cs).bind (place (room + 1)) with
    | none => ([], false, cs)
    | some (p, rest) =>
      if p.isIpv4 then (p.groups, true, rest)
      else
        let (groups, ipv4, rest) := readGroups false room rest
        (p.groups ++ groups, ipv4, rest)

/-- The address of a list of groups, if they are eight. -/
def ofGroups? (groups : List UInt16) : Option Ipv6 :=
  if h : groups.length = 8 then some ⟨groups, h⟩ else none

/-- Eight groups, or fewer with a pair of colons for the zero groups that are left out. -/
def read (cs : List Char) : Option (Ipv6 × List Char) := do
  let (head, ipv4, rest) := readGroups true 8 cs
  if head.length = 8 then return (← ofGroups? head, rest)
  else if ipv4 then none
  else
    let (tail, _, rest) := readGroups true (7 - head.length) (← expect ':' (← expect ':' rest))
    let zeros := List.replicate (8 - head.length - tail.length) 0
    return (← ofGroups? (head ++ zeros ++ tail), rest)

end Ipv6

namespace SocketAddress

/-- An address of version four with its port. -/
def readV4 (cs : List Char) : Option (SocketAddress × List Char) := do
  let (ip, cs) ← Ipv4.read cs
  let (port, cs) ← port cs
  return (v4 ip port, cs)

/-- An address of version six in brackets with its port. -/
def readV6 (cs : List Char) : Option (SocketAddress × List Char) := do
  let (ip, cs) ← Ipv6.read (← expect '[' cs)
  let (scope, cs) := scope cs
  let (port, cs) ← port (← expect ']' cs)
  return (v6 ip scope port, cs)

/-- The address that a text denotes as a whole. -/
def parse? (s : String) : Option SocketAddress :=
  match readV4 s.toList <|> readV6 s.toList with
  | some (address, []) => some address
  | _ => none

end SocketAddress

/-! ## Writing -/

/-- Four numbers with dots between them. -/
def Ipv4.chars (ip : Ipv4) : List Char :=
  ['.'].intercalate ([ip.a, ip.b, ip.c, ip.d].map fun n => natDigits n.toNat)

/-- A stretch of groups, by its first place and its length. -/
structure Stretch where
  start : Nat
  length : Nat

/-- The longest stretch of zeros, the first of several. `current` ends just before `place`. -/
def zeroStretch (place : Nat) (current longest : Stretch) : List UInt16 → Stretch
  | [] => longest
  | g :: groups =>
    if g = 0 then
      let current := if current.length = 0 then ⟨place, 1⟩ else ⟨current.start, current.length + 1⟩
      zeroStretch (place + 1) current
        (if longest.length < current.length then current else longest) groups
    else zeroStretch (place + 1) ⟨0, 0⟩ longest groups

namespace Ipv6

/-- Groups with colons between them. -/
def groupChars (groups : List UInt16) : List Char :=
  [':'].intercalate (groups.map fun g => Nat.toDigits 16 g.toNat)

/-- The address of version four that is written into one of version six behind five zero groups and a group
of ones. -/
def mappedIpv4? (ip : Ipv6) : Option Ipv4 :=
  match ip.groups with
  | [0, 0, 0, 0, 0, 0xFFFF, high, low] =>
    some ⟨(high >>> 8).toUInt8, high.toUInt8, (low >>> 8).toUInt8, low.toUInt8⟩
  | _ => none

/-- The shortest form: the longest run of zero groups, if it has more than one, is left out. -/
def chars (ip : Ipv6) : List Char :=
  match ip.mappedIpv4? with
  | some v4 => [':', ':', 'f', 'f', 'f', 'f', ':'] ++ v4.chars
  | none =>
    let zeros := zeroStretch 0 ⟨0, 0⟩ ⟨0, 0⟩ ip.groups
    if 1 < zeros.length then
      groupChars (ip.groups.take zeros.start) ++ [':', ':'] ++
        groupChars (ip.groups.drop (zeros.start + zeros.length))
    else groupChars ip.groups

end Ipv6

/-- An address as it is shown. -/
def SocketAddress.text : SocketAddress → String
  | v4 ip port => String.ofList (ip.chars ++ ':' :: natDigits port.toNat)
  | v6 ip scope port =>
    let zone := if scope = 0 then [] else '%' :: natDigits scope.toNat
    String.ofList ('[' :: ip.chars ++ zone ++ [']', ':'] ++ natDigits port.toNat)

end BoxOffice.Net
