import BoxOffice.Http.Form
import BoxOffice.Net.Url
import BoxOffice.Text.Quoted

/-!
# Addresses of databases

What a URL has to say about a database: where its server is, who asks, and how. The user, the password
and the name of the database stand in the URL itself; parameters in the query come after them and count
more.
-/

namespace BoxOffice

open BoxOffice.Net BoxOffice.Text

/-- Why a text names no database. -/
inductive DatabaseUrlError where
  | badUrl (e : UrlError)
  | badText (e : Utf8.Break)
  | badTlsMode (name : String)
  | badAddress
  | badNumber (e : NumeralError)
  deriving Repr, DecidableEq

/-- The wording of a `DatabaseUrlError`. -/
def DatabaseUrlError.message (e : DatabaseUrlError) : String :=
  "error with configuration: " ++
    match e with
    | .badUrl e => e.message
    | .badText e => e.message
    | .badTlsMode name => "error with configuration: unknown value " ++ quoted name ++ " for `ssl_mode`"
    | .badAddress => "invalid IP address syntax"
    | .badNumber e => e.message

/-- Where a server is: where servers usually are, at a host, or behind a socket. -/
inductive DatabaseAddress where
  | usual
  | host (name : String)
  | socket (path : String)
  deriving Repr, DecidableEq

/-- How much the connection is guarded. -/
inductive TlsMode where
  | disable
  | allow
  | prefer
  | require
  | verifyCa
  | verifyFull
  deriving Repr, DecidableEq

/-- The mode of a name, in any case. -/
def TlsMode.ofName? (name : String) : Option TlsMode :=
  [("disable", .disable), ("allow", .allow), ("prefer", .prefer), ("require", .require),
    ("verify-ca", .verifyCa), ("verify-full", .verifyFull)].lookup name.toLower

/-- Which database of which server, and how to ask it. -/
structure DatabaseTarget where
  address : DatabaseAddress
  port : Nat
  username : Option String
  password : Option String
  database : Option String
  tlsMode : TlsMode
  cacheCapacity : Nat
  deriving Repr, DecidableEq

namespace DatabaseTarget

/-- What is taken where nothing is said. -/
def standard : DatabaseTarget where
  address := .usual
  port := 5432
  username := none
  password := none
  database := none
  tlsMode := .prefer
  cacheCapacity := 100

/-- A part of a URL in which bytes may be written with percent signs; nothing where it is empty. -/
def part (cs : List Char) : Except DatabaseUrlError (Option String) :=
  if cs.isEmpty then .ok none else ((Utf8.decode (Percent.decode cs)).mapError .badText).map some

/-- The address that a host in a URL stands for. One that starts with a slash is the path of a socket. -/
def addressOf (host : List Char) : Except DatabaseUrlError DatabaseAddress :=
  let bytes := Percent.decode host
  if bytes.head? = some 0x2F then ((Utf8.decode bytes).mapError .badText).map .socket
  else .ok (.host (String.ofList host))

/-- What a URL says without its query. -/
def ofUrl (u : Url) : Except DatabaseUrlError DatabaseTarget := do
  let address ← u.host.elim (.ok .usual) addressOf
  let username ← part u.username
  let password ← part (u.password.getD [])
  let database ← part (u.path.chars.dropWhile (· = '/'))
  return { standard with
    address, username, password, database
    port := u.port.getD standard.port }

/-- A number of at most `most`. -/
def number (most : Nat) (text : String) : Except DatabaseUrlError Nat :=
  (boundedNat most text.toList).mapError .badNumber

/-- An address of version four or six. -/
def isIp (cs : List Char) : Bool :=
  (Ipv4.read cs).any (·.2.isEmpty) || (Ipv6.read cs).any (·.2.isEmpty)

/-- The target with a parameter of the query. One that is not known changes nothing. -/
def withParameter (t : DatabaseTarget) (name value : String) : Except DatabaseUrlError DatabaseTarget :=
  if ["sslmode", "ssl-mode"].contains name then
    match TlsMode.ofName? value with
    | some tlsMode => .ok { t with tlsMode }
    | none => .error (.badTlsMode value)
  else if name = "statement-cache-capacity" then
    (number (UInt64.size - 1) value).map fun cacheCapacity => { t with cacheCapacity }
  else if name = "host" then
    .ok { t with address := if value.toList.head? = some '/' then .socket value else .host value }
  else if name = "hostaddr" then
    if isIp value.toList then .ok { t with address := .host value } else .error .badAddress
  else if name = "port" then
    (number (UInt16.size - 1) value).map fun port => { t with port }
  else if name = "dbname" then .ok { t with database := some value }
  else if name = "user" then .ok { t with username := some value }
  else if name = "password" then .ok { t with password := some value }
  else .ok t

/-- The database that a URL names. -/
def parse (s : String) : Except DatabaseUrlError DatabaseTarget := do
  let u ← (Url.parse s).mapError .badUrl
  let t ← ofUrl u
  (Http.Form.decode (String.ofList (u.query.getD []))).foldlM (fun t (name, value) =>
    t.withParameter name value) t

end DatabaseTarget

end BoxOffice
