import BoxOffice.Text.Split
import BoxOffice.Text.Utf8

/-!
# Trees of files

A path leads from the root or from the directory of the program through directories to a file.
`FileTree.read` gives the bytes of the file, or says what is in the way.
-/

namespace BoxOffice

open BoxOffice.Text

/-- Why a file cannot be read. -/
inductive FileError where
  | missing
  | underFile
  | directory
  | longName
  | nulInName
  deriving Repr, DecidableEq

/-- The wording of a file error. -/
def FileError.message : FileError → String
  | .missing => "No such file or directory (os error 2)"
  | .underFile => "Not a directory (os error 20)"
  | .directory => "Is a directory (os error 21)"
  | .longName => "File name too long (os error 36)"
  | .nulInName => "file name contained an unexpected NUL byte"

/-- What stands at a place of a tree. -/
inductive FileEntry where
  | directory
  | content (bytes : List UInt8)
  deriving Repr, DecidableEq

/-- The names on the way from the root. -/
abbrev FilePlace := List (List Char)

/-- What stands where, the root aside, and the place of the program. -/
structure FileTree where
  entries : List (FilePlace × FileEntry)
  here : FilePlace

namespace FileTree

/-- The most bytes of a name. -/
def nameLimit : Nat := 255

/-- The most bytes of a path. -/
def pathLimit : Nat := 4095

/-- The number of bytes of a name. -/
def nameSize (name : List Char) : Nat := Utf8.size (String.ofList name)

/-- What stands at a place. -/
def entry? (t : FileTree) (place : FilePlace) : Option FileEntry :=
  if place.isEmpty then some .directory else t.entries.lookup place

/-- Goes from a directory to what is called `name` there. No name and a point stand for the directory itself,
two points for the one above. -/
def enter (t : FileTree) (place : FilePlace) (name : List Char) : Except FileError FilePlace :=
  match t.entry? place with
  | none => .error .missing
  | some (.content _) => .error .underFile
  | some .directory =>
    if name.isEmpty || name = ['.'] then .ok place
    else if name = ['.', '.'] then .ok place.dropLast
    else if nameLimit < nameSize name then .error .longName
    else .ok (place ++ [name])

/-- The place that a path leads to. -/
def resolve (t : FileTree) (path : List Char) : Except FileError FilePlace :=
  (splitOn '/' path).foldlM t.enter (if path.head? = some '/' then [] else t.here)

/-- The bytes of the file that a path leads to. -/
def read (t : FileTree) (path : String) : Except FileError (List UInt8) := do
  if path.toList.contains '\x00' then throw .nulInName
  if pathLimit < Utf8.size path then throw .longName
  if path.isEmpty then throw .missing
  match t.entry? (← t.resolve path.toList) with
  | none => throw .missing
  | some .directory => throw .directory
  | some (.content bytes) => return bytes

end FileTree

end BoxOffice
