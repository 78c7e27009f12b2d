import BoxOffice.Json.Token

/-!
# JSON nodes

A `Node` is what was read of a text, with the faults left in the places where they lie. Whoever walks
over a node in the order of the text meets its faults in that order, and may meet a fault of its own (a
field of the wrong kind) before them.

1. `Node.read` builds the node of a text from its tokens. It never fails.
2. `Node.ofValue` is the node of a value held in memory; it has no faults.
3. `Node.value` reads a node carefully, `Node.skip` only gets past it.
-/

namespace BoxOffice.Json

open BoxOffice.Text.Utf8

/-- How the items of an array end. `known` is the end of an array held in memory, whose length is known
before its items are looked at. -/
inductive ArrayEnd where
  | closed
  | known
  | commaThenBracket
  | commaThenEnd
  | noComma
  | textEnd
  deriving Repr, DecidableEq

/-- How the members of an object end: by its bracket, or by a fault as a careful and as a skipping reader
report it. -/
inductive ObjectEnd where
  | closed
  | faulty (careful skipping : Fault)
  deriving Repr, DecidableEq

/-- What was read of a value. A number is `none` if it is out of range; a string or a name is an error if
only a skipping reader accepts it. `tooDeep` marks a bracket that exceeds the limit of open brackets, and
`bad` stands where no value can be read. -/
inductive Node where
  | null
  | bool (b : Bool)
  | number (n : Option Number)
  | string (s : Except Fault String)
  | array (items : List Node) (stop : ArrayEnd)
  | object (members : List (Except Fault String × Node)) (stop : ObjectEnd)
  | tooDeep (inner : Node)
  | bad (careful skipping : Fault)

/-- A member of an object: its name and its value. -/
abbrev Member := Except Fault String × Node

/-! ## Reading a text -/

/-- A bracket that is open, with what was read inside it, the last first. -/
inductive Frame where
  | array (items : List Node)
  | object (members : List Member) (name : Except Fault String)

/-- What a reader waits for, inside the open brackets `outer`. -/
inductive Wait where
  | value (outer : List Frame)
  | firstItem (outer : List Frame)
  | comma (items : List Node) (outer : List Frame)
  | nextItem (items : List Node) (outer : List Frame)
  | firstName (outer : List Frame)
  | memberComma (members : List Member) (outer : List Frame)
  | nextName (members : List Member) (outer : List Frame)
  | colon (members : List Member) (name : Except Fault String) (outer : List Frame)

/-- The number of brackets that may be open at once. -/
def greatestDepth : Nat := 127

/-- A node in brackets, `depth` brackets being open around it. -/
def Node.enclosed (depth : Nat) (n : Node) : Node := if greatestDepth ≤ depth then .tooDeep n else n

/-- Closes all open brackets around a node behind which nothing is read. -/
def Node.giveUp (n : Node) : List Frame → Node
  | [] => n
  | .array items :: outer =>
    giveUp (Node.enclosed outer.length (.array (n :: items).reverse .closed)) outer
  | .object members name :: outer =>
    giveUp (Node.enclosed outer.length (.object ((name, n) :: members).reverse .closed)) outer

/-- The node of an array whose items end. -/
def Node.ofItems (items : List Node) (stop : ArrayEnd) (outer : List Frame) : Node :=
  Node.enclosed outer.length (.array items.reverse stop)

/-- The node of an object whose members end. -/
def Node.ofMembers (members : List Member) (stop : ObjectEnd) (outer : List Frame) : Node :=
  Node.enclosed outer.length (.object members.reverse stop)

/-- What a reader waits for after a value; nothing if no bracket is open. -/
def Wait.after (n : Node) : List Frame → Option Wait
  | [] => none
  | .array items :: outer => some (.comma (n :: items) outer)
  | .object members name :: outer => some (.memberComma ((name, n) :: members) outer)

/-- What comes of one token: the reader goes on, or the node is complete. -/
inductive Progress where
  | wait (w : Wait)
  | complete (n : Node)

/-- Goes on after a value. -/
def Progress.ofValue (n : Node) (outer : List Frame) : Progress :=
  match Wait.after n outer with
  | some w => .wait w
  | none => .complete n

/-- Stops at a fault that lies inside the open brackets `outer`. -/
def Progress.stop (n : Node) (outer : List Frame) : Progress := .complete (n.giveUp outer)

/-- Reads one token where a value has to start. -/
def valueStep (outer : List Frame) : Token → Progress
  | .openBracket => .wait (.firstItem outer)
  | .openBrace => .wait (.firstName outer)
  | .null => .ofValue .null outer
  | .bool b => .ofValue (.bool b) outer
  | .number n => .ofValue (.number n) outer
  | .string s => .ofValue (.string s) outer
  | .brokenString careful skipping => .stop (.bad careful skipping) outer
  | .broken careful skipping => .stop (.bad careful skipping) outer
  | .closeBrace | .closeBracket | .comma | .colon => .stop (.bad .expectedValue .expectedValue) outer

/-- Reads one token where the name of a member has to stand; `other` is the fault of an object in which no
name stands there. -/
def nameStep (members : List Member) (outer : List Frame) (other : ObjectEnd) : Token → Progress
  | .string s => .wait (.colon members s outer)
  | .brokenString careful skipping =>
    .stop (.ofMembers members (.faulty careful skipping) outer) outer
  | _ => .stop (.ofMembers members other outer) outer

/-- Reads one token. -/
def Wait.step (w : Wait) (t : Token) : Progress :=
  match w with
  | .value outer => valueStep outer t
  | .firstItem outer =>
    match t with
    | .closeBracket => .ofValue (.ofItems [] .closed outer) outer
    | t => valueStep (.array [] :: outer) t
  | .comma items outer =>
    match t with
    | .closeBracket => .ofValue (.ofItems items .closed outer) outer
    | .comma => .wait (.nextItem items outer)
    | _ => .stop (.ofItems items .noComma outer) outer
  | .nextItem items outer =>
    match t with
    | .closeBracket => .stop (.ofItems items .commaThenBracket outer) outer
    | t => valueStep (.array items :: outer) t
  | .firstName outer =>
    match t with
    | .closeBrace => .ofValue (.ofMembers [] .closed outer) outer
    | t => nameStep [] outer (.faulty .keyNotString .keyNotString) t
  | .memberComma members outer =>
    match t with
    | .closeBrace => .ofValue (.ofMembers members .closed outer) outer
    | .comma => .wait (.nextName members outer)
    | _ =>
      .stop (.ofMembers members (.faulty .expectedCommaInObject .expectedCommaInObject) outer) outer
  | .nextName members outer =>
    match t with
    | .closeBrace =>
      .stop (.ofMembers members (.faulty .trailingComma .keyNotString) outer) outer
    | t => nameStep members outer (.faulty .keyNotString .keyNotString) t
  | .colon members name outer =>
    match t with
    | .colon => .wait (.value (.object members name :: outer))
    | _ => .stop (.bad .expectedColon .expectedColon) (.object members name :: outer)

/-- The node of a text that ends while the reader waits. -/
def Wait.atEnd : Wait → Node
  | .value outer => (Node.bad .endInValue .endInValue).giveUp outer
  | .firstItem outer => (Node.ofItems [] .textEnd outer).giveUp outer
  | .comma items outer => (Node.ofItems items .textEnd outer).giveUp outer
  | .nextItem items outer => (Node.ofItems items .commaThenEnd outer).giveUp outer
  | .firstName outer =>
    (Node.ofMembers [] (.faulty .endInObject .endInObject) outer).giveUp outer
  | .memberComma members outer =>
    (Node.ofMembers members (.faulty .endInObject .endInObject) outer).giveUp outer
  | .nextName members outer =>
    (Node.ofMembers members (.faulty .endInValue .endInObject) outer).giveUp outer
  | .colon members name outer =>
    (Node.bad .endInObject .endInObject).giveUp (.object members name :: outer)

/-- Reads tokens up to the end of a value. Returns its node and the tokens behind it. -/
def Wait.run (w : Wait) : List Token → Node × List Token
  | [] => (w.atEnd, [])
  | t :: ts =>
    match w.step t with
    | .wait w => w.run ts
    | .complete n => (n, ts)

/-- A text as it was read: the node of its value, and whether anything follows the value. -/
structure Reading where
  node : Node
  trailing : Bool

/-- Reads a text. -/
def Reading.ofSymbols (cs : List Symbol) : Reading :=
  let (node, rest) := (Wait.value []).run (tokens cs)
  ⟨node, !rest.isEmpty⟩

/-- Reads a text. -/
def Reading.ofText (s : String) : Reading := .ofSymbols (symbolsOfText s)

/-- Reads a text that is given by its bytes. -/
def Reading.ofBytes (bytes : List UInt8) : Reading := .ofSymbols (symbols bytes)

/-! ## Values in memory -/

mutual

/-- The node of a value. -/
def Node.ofValue : Value → Node
  | .null => .null
  | .bool b => .bool b
  | .number n => .number (some n)
  | .string s => .string (.ok s)
  | .array items => .array (nodesOfItems items) .known
  | .object members => .object (nodesOfMembers members) .closed

/-- The nodes of the items of an array. -/
def nodesOfItems : List Value → List Node
  | [] => []
  | v :: vs => .ofValue v :: nodesOfItems vs

/-- The nodes of the members of an object. -/
def nodesOfMembers : List (String × Value) → List Member
  | [] => []
  | (name, v) :: rest => (.ok name, .ofValue v) :: nodesOfMembers rest

end

/-! ## Walking over a node -/

/-- What a careful reader reports at the end of an array. -/
def ArrayEnd.careful : ArrayEnd → Except Fault Unit
  | .closed | .known => .ok ()
  | .commaThenBracket => .error .trailingComma
  | .commaThenEnd => .error .endInValue
  | .noComma => .error .expectedCommaInArray
  | .textEnd => .error .endInArray

/-- What a skipping reader reports at the end of an array. -/
def ArrayEnd.skipping : ArrayEnd → Except Fault Unit
  | .commaThenBracket => .error .expectedValue
  | stop => stop.careful

/-- What a careful reader reports at the end of an object. -/
def ObjectEnd.careful : ObjectEnd → Except Fault Unit
  | .closed => .ok ()
  | .faulty careful _ => .error careful

/-- What a skipping reader reports at the end of an object. -/
def ObjectEnd.skipping : ObjectEnd → Except Fault Unit
  | .closed => .ok ()
  | .faulty _ skipping => .error skipping

mutual

/-- The value of a node, or the first fault that a careful reader meets. -/
def Node.value : Node → Except Fault Value
  | .null => .ok .null
  | .bool b => .ok (.bool b)
  | .number (some n) => .ok (.number n)
  | .number none => .error .numberOutOfRange
  | .string s => s.map Value.string
  | .array items stop => do
    let vs ← valuesOfItems items
    stop.careful
    return .array vs
  | .object members stop => do
    let ms ← valuesOfMembers members
    stop.careful
    return .object (orderMembers ms)
  | .tooDeep _ => .error .tooDeep
  | .bad careful _ => .error careful

/-- The values of nodes. -/
def valuesOfItems : List Node → Except Fault (List Value)
  | [] => .ok []
  | n :: ns => do
    let v ← n.value
    let vs ← valuesOfItems ns
    return v :: vs

/-- The names and values of members. -/
def valuesOfMembers : List Member → Except Fault (List (String × Value))
  | [] => .ok []
  | (name, n) :: rest => do
    let name ← name
    let v ← n.value
    let ms ← valuesOfMembers rest
    return (name, v) :: ms

end

mutual

/-- The first fault that a reader meets who only wants to get past a node. -/
def Node.skip : Node → Except Fault Unit
  | .null | .bool _ | .number _ | .string _ => .ok ()
  | .array items stop => do
    skipItems items
    stop.skipping
  | .object members stop => do
    skipMembers members
    stop.skipping
  | .tooDeep inner => inner.skip
  | .bad _ skipping => .error skipping

/-- Skips items one after the other. -/
def skipItems : List Node → Except Fault Unit
  | [] => .ok ()
  | n :: ns => do
    n.skip
    skipItems ns

/-- Skips members one after the other. -/
def skipMembers : List Member → Except Fault Unit
  | [] => .ok ()
  | (_, n) :: rest => do
    n.skip
    skipMembers rest

end

/-- The value of a text, or the fault for which it is refused. -/
def Reading.value (r : Reading) : Except Fault Value := do
  let v ← r.node.value
  if r.trailing then .error .trailingCharacters else .ok v

/-- Reads a text as one value. -/
def Value.ofText (s : String) : Except Fault Value := (Reading.ofText s).value

/-- Reads bytes as one value. -/
def Value.ofBytes (bytes : List UInt8) : Except Fault Value := (Reading.ofBytes bytes).value

end BoxOffice.Json
