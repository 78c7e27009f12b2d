import BoxOffice.Id
import BoxOffice.Json.Node
import BoxOffice.Number.Shortest
import BoxOffice.Text.Quoted
import BoxOffice.Time.Reading

/-!
# Decoding

How values of a given kind are read from JSON nodes.

1. `Node.text`, `Node.int64`, `Node.boolean`, `Node.id`, `Node.timestamp` read single values.
2. `Node.fields` reads the fields of a record, from an object or from an array in the order of declaration.
   Fields are checked in the order in which they come, so that the first bad one is reported; a field that is
   missing is reported after all that are there, in the order of declaration.
3. What is found is then looked up by name (`Fields.get`).
-/

namespace BoxOffice

open BoxOffice.Json BoxOffice.Text BoxOffice.Time

/-! ## Errors -/

/-- The kind of value that is wanted. -/
inductive Wanted where
  | text
  | int64
  | boolean
  | sequence
  | record (name : String)
  | elements (name : String) (count : Nat)
  | fewerElements
  | timestamp
  deriving Repr, DecidableEq

/-- The wording of a wanted kind. -/
def Wanted.message : Wanted → String
  | .text => "a string"
  | .int64 => "i64"
  | .boolean => "a boolean"
  | .sequence => "a sequence"
  | .record name => "struct " ++ name
  | .elements name count => "struct " ++ name ++ " with " ++ intText count ++ " elements"
  | .fewerElements => "fewer elements in array"
  | .timestamp => "an RFC 3339 formatted date and time string"

/-- The kind of value that is there. -/
inductive Shape where
  | null
  | bool (b : Bool)
  | number (n : Json.Number)
  | string (s : String)
  | array
  | object
  deriving Repr, DecidableEq

/-- The wording of a kind that is there. -/
def Shape.message : Shape → String
  | .null => "null"
  | .bool b => "boolean `" ++ (if b then "true" else "false") ++ "`"
  | .number (.whole n) => "integer `" ++ intText n.val ++ "`"
  | .number (.real x) => "floating point `" ++ x.text ++ "`"
  | .string s => "string " ++ quoted s
  | .array => "sequence"
  | .object => "map"

/-- Why a node does not decode. -/
inductive DecodeError where
  | fault (f : Fault)
  | invalidType (found : Shape) (wanted : Wanted)
  | invalidValue (n : Whole) (wanted : Wanted)
  | invalidLength (length : Nat) (wanted : Wanted)
  | missingField (name : String)
  | duplicateField (name : String)
  | refusedId (e : TicketError)
  | refusedTimestamp (e : TimestampError)
  deriving Repr, DecidableEq

/-- The wording of a `DecodeError`. -/
def DecodeError.message : DecodeError → String
  | .fault f => f.message
  | .invalidType found wanted =>
    "invalid type: " ++ found.message ++ ", expected " ++ wanted.message
  | .invalidValue n wanted =>
    "invalid value: integer `" ++ intText n.val ++ "`, expected " ++ wanted.message
  | .invalidLength length wanted =>
    "invalid length " ++ intText length ++ ", expected " ++ wanted.message
  | .missingField name => "missing field `" ++ name ++ "`"
  | .duplicateField name => "duplicate field `" ++ name ++ "`"
  | .refusedId e => e.text
  | .refusedTimestamp e => e.message

/-- The result of decoding. -/
abbrev Decoded (α : Type) := Except DecodeError α

/-- A fault of the text as a decoding error. -/
def ofFault {α : Type} (e : Except Fault α) : Decoded α := e.mapError .fault

namespace Json.Node

/-! ## Single values -/

/-- The error for a node of a kind that is not wanted. Arrays and objects are not looked into. -/
def mismatch (wanted : Wanted) : Node → DecodeError
  | .null => .invalidType .null wanted
  | .bool b => .invalidType (.bool b) wanted
  | .number (some n) => .invalidType (.number n) wanted
  | .number none => .fault .numberOutOfRange
  | .string (.ok s) => .invalidType (.string s) wanted
  | .string (.error f) => .fault f
  | .array _ _ => .invalidType .array wanted
  | .object _ _ => .invalidType .object wanted
  | .tooDeep inner => inner.mismatch wanted
  | .bad careful _ => .fault careful

/-- A text, wanted as such or as the text of something else. -/
def textAs (wanted : Wanted) : Node → Decoded String
  | .string (.ok s) => .ok s
  | n => .error (n.mismatch wanted)

/-- A text. -/
def text (n : Node) : Decoded String := n.textAs .text

/-- A whole number of signed 64 bits. -/
def int64 : Node → Decoded Int64
  | .number (some (.whole n)) =>
    match n.int64? with
    | some i => .ok i
    | none => .error (.invalidValue n .int64)
  | n => .error (n.mismatch .int64)

/-- A truth value. -/
def boolean : Node → Decoded Bool
  | .bool b => .ok b
  | n => .error (n.mismatch .boolean)

/-- An identifier. -/
def id (kind : IdKind) (n : Node) : Decoded (Id kind) := do
  let s ← n.text
  (Id.parse kind s).mapError .refusedId

/-- A timestamp. -/
def timestamp (n : Node) : Decoded Timestamp := do
  let s ← n.textAs .timestamp
  (Timestamp.read s).mapError .refusedTimestamp

/-- A value that may be null. -/
def optional {α : Type} (decode : Node → Decoded α) : Node → Decoded (Option α)
  | .null => .ok none
  | n => (decode n).map some

/-- The items of an array, each decoded. -/
def items {α : Type} (decode : Node → Decoded α) : Node → Decoded (List α)
  | .array items stop => do
    let values ← items.mapM decode
    ofFault stop.careful
    return values
  | .tooDeep (.array _ _) => .error (.fault .tooDeep)
  | n => .error (n.mismatch .sequence)

end Json.Node

/-! ## Records -/

/-- A field of a record: its name, how its value is checked, and whether it may be missing. -/
structure Field where
  name : String
  check : Node → Decoded Unit
  required : Bool

/-- A field that has to be there. -/
def Field.needed {α : Type} (name : String) (decode : Node → Decoded α) : Field :=
  ⟨name, fun n => (decode n).map fun _ => (), true⟩

/-- A field that may be missing. -/
def Field.optional {α : Type} (name : String) (decode : Node → Decoded α) : Field :=
  ⟨name, fun n => (decode n).map fun _ => (), false⟩

/-- The fields that were found, with their nodes, in the order in which they came. -/
abbrev Fields := List (String × Node)

namespace Fields

/-- The value of a field that has to be there. -/
def get {α : Type} (found : Fields) (name : String) (decode : Node → Decoded α) : Decoded α :=
  match found.lookup name with
  | some n => decode n
  | none => .error (.missingField name)

/-- The value of a field that may be missing. -/
def getD {α : Type} (found : Fields) (name : String) (decode : Node → Decoded α) (default : α) :
    Decoded α :=
  match found.lookup name with
  | some n => decode n
  | none => .ok default

/-- Reports the first required field, in the order of declaration, that was not found. -/
def checkPresent (found : Fields) : List Field → Decoded Unit
  | [] => .ok ()
  | f :: fs =>
    if f.required && (found.lookup f.name).isNone then .error (.missingField f.name)
    else found.checkPresent fs

end Fields

/-- Checks members in the order in which they come. A field may come once; members that are no fields go
through `other`. Returns the fields that were found after those in `found`. -/
def gatherMembers (fields : List Field) (other : Node → Decoded Unit) (found : Fields) :
    List Member → Decoded Fields
  | [] => .ok found
  | (name, n) :: rest => do
    let name ← ofFault name
    match fields.find? (·.name == name) with
    | some f =>
      if (found.lookup name).isSome then .error (.duplicateField name)
      else do
        f.check n
        gatherMembers fields other (found ++ [(name, n)]) rest
    | none => do
      other n
      gatherMembers fields other found rest

/-- Checks the items of an array as the values of fields in the order of declaration. -/
def gatherItems (wanted : Wanted) (stop : ArrayEnd) :
    Nat → List Field → List Node → Decoded (Fields × List Node)
  | _, [], items => .ok ([], items)
  | index, f :: fs, n :: items => do
    f.check n
    let (found, rest) ← gatherItems wanted stop (index + 1) fs items
    return ((f.name, n) :: found, rest)
  | index, f :: fs, [] => do
    ofFault stop.careful
    if f.required then .error (.invalidLength index wanted)
    else gatherItems wanted stop (index + 1) fs []

/-- What is reported where an array goes on behind the last item that is wanted. Of an array held in memory the
length is told; in a text only a comma before the bracket is told from other things. -/
def surplus (length : Nat) (stop : ArrayEnd) (rest : List Node) : Decoded Unit :=
  match stop, rest with
  | .known, [] => .ok ()
  | .known, _ :: _ => .error (.invalidLength length .fewerElements)
  | .closed, [] => .ok ()
  | .commaThenBracket, [] => .error (.fault .trailingComma)
  | .textEnd, [] => .error (.fault .endInArray)
  | _, _ => .error (.fault .trailingCharacters)

/-- The fields of a record. Other members of an object are skipped. -/
def Json.Node.fields (name : String) (fields : List Field) : Node → Decoded Fields
  | .object members stop => do
    let found ← gatherMembers fields (fun n => ofFault n.skip) [] members
    ofFault stop.careful
    found.checkPresent fields
    return found
  | .array items stop => do
    let (found, rest) ← gatherItems (.elements name fields.length) stop 0 fields items
    surplus items.length stop rest
    return found
  | .tooDeep (.object _ _) => .error (.fault .tooDeep)
  | .tooDeep (.array _ _) => .error (.fault .tooDeep)
  | n => .error (n.mismatch (.record name))

/-- Decodes a text: its value first, then nothing may follow. -/
def Json.Reading.decode {α : Type} (r : Reading) (decode : Node → Decoded α) : Decoded α := do
  let value ← decode r.node
  if r.trailing then .error (.fault .trailingCharacters) else .ok value

end BoxOffice
