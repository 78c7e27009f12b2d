import BoxOffice.Net.Host

/-!
# URLs

A URL names a scheme, and behind two slashes an authority: user information, a host and a port. A path,
a query and a fragment follow; the fragment is left out. Schemes of networks and of files have rules of
their own: they take a backslash for a slash, those of networks ask for a host behind any number of
slashes, and those of files have no user information and no port.
-/

namespace BoxOffice.Net

open BoxOffice.Text

/-- Why a text is no URL. -/
inductive UrlError where
  | noScheme
  | badHost (e : HostError)
  | badPort
  deriving Repr, DecidableEq

/-- The wording of a URL error. -/
def UrlError.message : UrlError → String
  | .noScheme => "relative URL without a base"
  | .badHost e => e.message
  | .badPort => "invalid port number"

/-- Which rules hold for what stands behind a scheme. -/
inductive SchemeKind where
  | network
  | file
  | plain
  deriving Repr, DecidableEq

namespace SchemeKind

/-- The schemes of networks, each with the port that goes without saying. -/
def networks : List (String × Nat) :=
  [("http", 80), ("https", 443), ("ws", 80), ("wss", 443), ("ftp", 21)]

/-- The kind of a scheme in lower case. -/
def ofScheme (scheme : String) : SchemeKind :=
  if (networks.lookup scheme).isSome then .network
  else if scheme = "file" then .file
  else .plain

/-- A slash, or what counts as one. -/
def isSlash (kind : SchemeKind) (c : Char) : Bool := c == '/' || (c == '\\' && kind != .plain)

/-- The end of an authority. -/
def endsAuthority (kind : SchemeKind) (c : Char) : Bool := kind.isSlash c || c == '?' || c == '#'

end SchemeKind

/-- A path: segments behind slashes, or a text that does not start with a slash. -/
inductive UrlPath where
  | segments (parts : List (List Char))
  | other (cs : List Char)
  deriving Repr, DecidableEq

/-- A path as it is written. -/
def UrlPath.chars : UrlPath → List Char
  | .segments parts => parts.flatMap ('/' :: ·)
  | .other cs => cs

/-- A URL. User information is as it is written; the host is missing where it is empty. -/
structure Url where
  scheme : String
  username : List Char
  password : Option (List Char)
  host : Option (List Char)
  port : Option Nat
  path : UrlPath
  query : Option (List Char)
  deriving Repr, DecidableEq

namespace Url

/-! ## Hosts and ports -/

/-- A host at the start of a text: up to a colon outside brackets, or to the end of an authority. -/
def spanHost (kind : SchemeKind) (bracketed : Bool) : List Char → List Char × List Char
  | [] => ([], [])
  | c :: cs =>
    if (c == ':' && !bracketed) || kind.endsAuthority c then ([], c :: cs)
    else
      let bracketed := if c = '[' then true else if c = ']' then false else bracketed
      let (host, rest) := spanHost kind bracketed cs
      (c :: host, rest)

/-- The host of an authority. The name of a computer may not be left out. -/
def readHost (kind : SchemeKind) (cs : List Char) : Except UrlError (List Char) :=
  match kind with
  | .plain => (Host.readPlain cs).mapError .badHost
  | _ => if cs.isEmpty then .error (.badHost .missing) else (Host.readDomain cs).mapError .badHost

/-- The digits of a port behind its colon. No digit is no port. -/
def readPort (cs : List Char) : Except UrlError (Option Nat × List Char) :=
  let digits := cs.takeWhile isDigit
  let rest := cs.dropWhile isDigit
  if UInt16.size ≤ natOfDigits digits then .error .badPort
  else if rest.head?.all (['/', '\\', '?', '#'].contains ·) then
    .ok (if digits.isEmpty then none else some (natOfDigits digits), rest)
  else .error .badPort

/-! ## User information -/

/-- User information stands before the last at sign of an authority. -/
def splitUser (authority : List Char) : Option (List Char) × List Char :=
  let host := (authority.reverse.takeWhile (· ≠ '@')).reverse
  if host.length = authority.length then (none, authority)
  else (some (authority.take (authority.length - host.length - 1)), host)

/-- A name and a password, which stands behind a colon. An empty password is none. -/
def readUser (cs : List Char) : List Char × Option (List Char) :=
  let (username, password) := cutAt ':' cs
  (username, if password.isEmpty then none else some password)

/-! ## Paths -/

/-- A segment that stands for the one it is in. -/
def isHere (segment : List Char) : Bool :=
  [".", "%2e"].contains (String.ofList (segment.map Char.toLower))

/-- A segment that stands for the one above. -/
def isAbove (segment : List Char) : Bool :=
  ["..", ".%2e", "%2e.", "%2e%2e"].contains (String.ofList (segment.map Char.toLower))

/-- A letter with a colon or a bar behind it, alone or before a backslash: the name of a drive. -/
def isDrive : List Char → Bool
  | letter :: mark :: rest =>
    letter.isAlpha && (mark == ':' || mark == '|') && (rest.isEmpty || rest.head? == some '\\')
  | _ => false

/-- Leaves the nearest of the segments above, unless it names a drive. -/
def climb : List (List Char) → List (List Char)
  | [] => []
  | nearest :: above => if isDrive nearest then nearest :: above else above

/-- The segments of a path, without those that stand for others. `above` are those before, the nearest
first. -/
def resolveSegments (above : List (List Char)) : List (List Char) → List (List Char)
  | [] => above.reverse
  | [last] =>
    if isAbove last then (climb above).reverse ++ [[]]
    else if isHere last then above.reverse ++ [[]]
    else above.reverse ++ [last]
  | segment :: rest =>
    if isAbove segment then resolveSegments (climb above) rest
    else if isHere segment then resolveSegments above rest
    else resolveSegments (segment :: above) rest

/-- A path behind an authority. Where a backslash counts as a slash the path is never empty. -/
def readPath (kind : SchemeKind) (cs : List Char) : UrlPath :=
  let cs := if kind = .plain then cs else cs.map fun c => if kind.isSlash c then '/' else c
  match cs with
  | [] => if kind = .plain then .other [] else .segments [[]]
  | '/' :: rest => .segments (resolveSegments [] (splitOn '/' rest))
  | cs => .segments (resolveSegments [] (splitOn '/' cs))

/-! ## URLs -/

/-- The characters that a scheme is made of, the first aside. -/
def isSchemeChar (c : Char) : Bool := c.isAlphanum || c == '+' || c == '-' || c == '.'

/-- The scheme of a text in lower case, and what stands behind its colon. -/
def splitScheme (cs : List Char) : Except UrlError (String × List Char) :=
  let name := cs.takeWhile isSchemeChar
  match name.head?, cs.dropWhile isSchemeChar with
  | some c, ':' :: rest =>
    if c.isAlpha then .ok (String.ofList (name.map Char.toLower), rest) else .error .noScheme
  | _, _ => .error .noScheme

/-- What stands before a mark, and what stands behind it if it is there. -/
def splitTail (mark : Char) (cs : List Char) : List Char × Option (List Char) :=
  (cs.takeWhile (· ≠ mark), (cs.dropWhile (· ≠ mark)).tail?)

/-- The characters that are read: those at the ends that show nothing are cut off, line ends and tabs are left
out everywhere. -/
def clean (cs : List Char) : List Char :=
  let trimmed := ((cs.dropWhile (· ≤ ' ')).reverse.dropWhile (· ≤ ' ')).reverse
  trimmed.filter fun c => c ≠ '\t' && c ≠ '\n' && c ≠ '\r'

/-- A path with an optional query; a fragment is left out. -/
def splitPath (cs : List Char) : List Char × Option (List Char) :=
  splitTail '?' (splitTail '#' cs).1

/-- An authority with what follows it. A port that goes without saying is left out. -/
def readAuthority (kind : SchemeKind) (scheme : String) (cs : List Char) : Except UrlError Url := do
  let (user, _) := splitUser (cs.takeWhile fun c => !kind.endsAuthority c)
  let behind := cs.drop (user.elim 0 (·.length + 1))
  if user = some [] && behind.head?.any kind.endsAuthority then throw (.badHost .missing)
  let (username, password) := readUser (user.getD [])
  let (host, rest) := spanHost kind false behind
  let host ← readHost kind host
  let (port, rest) ← match rest with
    | ':' :: digits => if host.isEmpty then throw (.badHost .missing) else readPort digits
    | rest => .ok (none, rest)
  if host.isEmpty && !(username.isEmpty && password.isNone) then throw (.badHost .missing)
  let (path, query) := splitPath rest
  return {
    scheme, username, password
    host := if host.isEmpty then none else some host
    port := port.filter (some · ≠ SchemeKind.networks.lookup scheme)
    path := readPath kind path
    query }

/-- What stands behind the scheme of files: a host behind two slashes, unless it names a drive, and a path. -/
def readFile (scheme : String) (cs : List Char) : Except UrlError Url := do
  let kind := SchemeKind.file
  let (host, rest) := match cs with
    | a :: b :: rest =>
      if kind.isSlash a && kind.isSlash b then
        let host := rest.takeWhile fun c => !kind.endsAuthority c
        if isDrive host then ([], rest) else (host, rest.drop host.length)
      else ([], cs)
    | cs => ([], cs)
  let host ← if host.isEmpty then .ok host else readHost kind host
  let (path, query) := splitPath rest
  return {
    scheme, username := [], password := none
    host := if host.isEmpty || host = "localhost".toList then none else some host
    port := none
    path := readPath kind path
    query }

/-- Reads a URL. -/
def parse (s : String) : Except UrlError Url := do
  let (scheme, rest) ← splitScheme (clean s.toList)
  match SchemeKind.ofScheme scheme, rest with
  | .network, rest =>
    readAuthority .network scheme (rest.dropWhile SchemeKind.network.isSlash)
  | .file, rest => readFile scheme rest
  | .plain, '/' :: '/' :: authority => readAuthority .plain scheme authority
  | .plain, rest =>
    let (cs, query) := splitPath rest
    let path := if cs.head? = some '/' then readPath .plain cs else .other cs
    return { scheme, username := [], password := none, host := none, port := none, path, query }

end Url

end BoxOffice.Net
