import BoxOffice.Text.Blank
import BoxOffice.Text.Split
import BoxOffice.Uuid

/-!
# HTTP requests

What a request asks for: a method, a target and headers. A target is a path with an optional query, alone or
behind a scheme and a host; a fragment is left out.
-/

namespace BoxOffice.Http

open BoxOffice.Text

/-- The path of a request and its query. -/
structure Target where
  path : String
  query : Option String
  deriving Repr, DecidableEq

/-- An HTTP request without a body. -/
structure Request where
  method : String
  target : Target
  headers : List (String × String)
  deriving Repr, DecidableEq

namespace Target

/-- The characters that a scheme is made of. -/
def isSchemeChar (c : Char) : Bool := c.isAlphanum || ['+', '-', '.', '~'].contains c

/-- The end of the part of a target that stands before its path. -/
def endsHost (c : Char) : Bool := c == '/' || c == '?' || c == '#'

/-- What is left of a target without scheme and host, if it has them. The scheme may be empty. -/
def withoutHost? (cs : List Char) : Option (List Char) :=
  match cs.dropWhile isSchemeChar with
  | ':' :: '/' :: '/' :: rest => some (rest.dropWhile fun c => !endsHost c)
  | _ => none

/-- A path with an optional query. -/
def ofPathAndQuery (cs : List Char) : Target :=
  let cs := cs.takeWhile (· ≠ '#')
  let path := cs.takeWhile (· ≠ '?')
  let query := (cs.dropWhile (· ≠ '?')).tail?
  ⟨String.ofList path, query.map String.ofList⟩

/-- Reads a target. Behind a host the path may be left out. -/
def parse (s : String) : Target :=
  match withoutHost? s.toList with
  | none => ofPathAndQuery s.toList
  | some rest =>
    let target := ofPathAndQuery rest
    if target.path.isEmpty then { target with path := "/" } else target

end Target

namespace Request

/-- The value of the first header of a name, which is given in lower case. -/
def header? (r : Request) (name : String) : Option String :=
  (r.headers.find? fun h => h.1.toLower == name).map Prod.snd

/-- A character that a header value shows. -/
def isVisible (c : Char) : Bool := c == '\t' || (' ' ≤ c && c ≤ '~')

/-- The identifier that a header value gives to the request, if it gives one. -/
def idOfHeader? (value : String) : Option Uuid :=
  if value.toList.all isVisible then Uuid.parse? (trimChars value.toList) else none

/-- The identifier that the caller gives to the request, if he gives one. -/
def requestId? (r : Request) : Option Uuid := (r.header? "x-request-id").bind idOfHeader?

end Request

end BoxOffice.Http
