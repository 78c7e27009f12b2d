import BoxOffice.Net.DomainMapping
import BoxOffice.Text.Composition
import BoxOffice.Text.Direction
import BoxOffice.Text.Joining
import BoxOffice.Text.Punycode

/-!
# Names of computers

A name consists of labels with points between them. It may be written in many ways that count as one:
each character stands for others (`DomainMapping`), and what they make is put into composed form. A
label that starts with `xn--` is another in ASCII characters. `DomainName.read?` gives the form that a
text counts as, if it is a name.
-/

namespace BoxOffice.Net.DomainName

open BoxOffice.Text

/-- A character of ASCII. -/
def isAscii (c : Char) : Bool := c ≤ '\x7f'

/-- The characters of ASCII that may not stand in a label. -/
def isForbidden (c : Char) : Bool :=
  c ≤ ' ' || ['%', '#', '/', ':', '<', '>', '?', '@', '[', '\\', ']', '^', '|', '\x7f'].contains c

/-- A label in its final form: no mark stands at its start, and joiners stand where they belong. -/
def isLabel (cs : List Char) : Bool :=
  !cs.any isForbidden && !cs.head?.any isMark && joinersFit [] cs

/-- The most characters of a label that has to be written in ASCII. -/
def labelLimit : Nat := 1000

/-- The most characters of a label that is written in ASCII, without the mark of that. -/
def codeLimit : Nat := 2000

/-- The label that is written in ASCII. It has to be in its final form, and one that needs it. -/
def ofCode? (code : List Char) : Option (List Char) := do
  if !code.all isAscii || code.getLast?.all (· = '-') || codeLimit < code.length then none
  let label ← Punycode.decode? code
  if DomainMapping.ofText? label = some label && compose label = label && isLabel label then some label
  else none

/-- The label that a label counts as. -/
def readLabel? (cs : List Char) : Option (List Char) :=
  match cs with
  | 'x' :: 'n' :: '-' :: '-' :: code => ofCode? code
  | _ =>
    if isLabel cs && (cs.all isAscii || cs.length ≤ labelLimit) then some cs else none

/-- The name that a text counts as. -/
def read? (cs : List Char) : Option (List Char) := do
  let mapped ← DomainMapping.ofText? cs
  let labels ← (splitOn '.' (compose mapped)).mapM readLabel?
  if readsOneWay labels then some (['.'].intercalate labels) else none

end BoxOffice.Net.DomainName
