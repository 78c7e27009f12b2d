import BoxOffice.Broker.Redis
import BoxOffice.Http.Form
import BoxOffice.Net.Url

/-!
# Addresses of servers for messages

What a URL has to say about a server: a host, or the path of a socket, and a database number.
-/

namespace BoxOffice

open BoxOffice.Net BoxOffice.Text

/-- Why a URL names no server. -/
inductive RedisUrlError where
  | notParsed
  | noHost
  | tlsDisabled
  | badDatabase
  | badUsername
  | badPassword
  | noPath
  deriving Repr, DecidableEq

/-- The wording of a `RedisUrlError`. -/
def RedisUrlError.message (e : RedisUrlError) : String :=
  (match e with
    | .notParsed => "Redis URL did not parse"
    | .noHost => "Missing hostname"
    | .tlsDisabled => "can't connect with TLS, the feature is not enabled"
    | .badDatabase => "Invalid database number"
    | .badUsername => "Username is not valid UTF-8 string"
    | .badPassword => "Password is not valid UTF-8 string"
    | .noPath => "Missing path") ++ "- InvalidClientConfig"

/-- A server for messages: a host with a port, or a socket. -/
inductive RedisAddress where
  | host (host : String) (port : Nat)
  | socket (path : String)
  deriving Repr, DecidableEq

/-- Which database of which server. -/
structure RedisTarget where
  address : RedisAddress
  database : Int64
  deriving Repr, DecidableEq

namespace RedisTarget

/-- The port of a server that names none. -/
def standardPort : Nat := 6379

/-- A text without the marks at its ends. -/
def trimMark (mark : Char) (cs : List Char) : List Char :=
  ((cs.dropWhile (· = mark)).reverse.dropWhile (· = mark)).reverse

/-- The database number of a path; zero if it is empty. -/
def databaseOfPath (path : UrlPath) : Except RedisUrlError Int64 :=
  match trimMark '/' path.chars with
  | [] => .ok 0
  | cs => (int64Of? cs).elim (.error .badDatabase) .ok

/-- Whether a part of user information is a text. -/
def isText (cs : List Char) : Bool := (Utf8.symbols (Percent.decode cs)).all Option.isSome

/-- The server at a host. -/
def ofHost (u : Url) : Except RedisUrlError RedisTarget := do
  let some host := u.host | throw .noHost
  if u.scheme = "rediss" then throw .tlsDisabled
  let database ← databaseOfPath u.path
  if !isText u.username then throw .badUsername
  if !u.password.all isText then throw .badPassword
  return ⟨.host (String.ofList host) (u.port.getD standardPort), database⟩

/-- The server at a socket. The database number stands in the query; of several the last counts. -/
def ofSocket (u : Url) : Except RedisUrlError RedisTarget := do
  let here := u.host.all (· = "localhost".toList)
  let path ← match u.path with
    | .segments _ => if here then .ok u.path.chars else .error .noPath
    | .other _ => .error .noPath
  let pairs := Http.Form.decode (String.ofList (u.query.getD []))
  let database ← match pairs.reverse.lookup "db" with
    | none => .ok 0
    | some text => (int64Of? text.toList).elim (.error .badDatabase) .ok
  return ⟨.socket (Utf8.decodeLossy (Percent.decode path)), database⟩

/-- The server that a URL names. -/
def parse (s : String) : Except RedisUrlError RedisTarget :=
  match Url.parse s with
  | .error _ => .error .notParsed
  | .ok u =>
    if u.scheme = "redis" || u.scheme = "rediss" then ofHost u
    else if u.scheme = "unix" || u.scheme = "redis+unix" then ofSocket u
    else .error .notParsed

end RedisTarget

end BoxOffice
