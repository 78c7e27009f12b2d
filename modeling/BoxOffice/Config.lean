import BoxOffice.Net.SocketAddress
import BoxOffice.Text.Blank
import BoxOffice.Ticket.Notification

/-!
# Configuration

The settings of the program, read from named texts. A text is trimmed, and a blank one counts as not given.
-/

namespace BoxOffice

open BoxOffice.Net BoxOffice.Text

/-- Why the settings are refused: the setting and what is wrong with it. -/
structure ConfigError where
  key : String
  problem : String
  deriving Repr, DecidableEq

/-- The wording of a configuration error. -/
def ConfigError.text (e : ConfigError) : String := "invalid value for " ++ e.key ++ ": " ++ e.problem

/-- The settings of the program. The timeout is in milliseconds. -/
structure ServiceConfig where
  bindAddress : SocketAddress
  databaseUrl : Option String
  redisUrl : Option String
  seedPath : Option String
  switchTopic : String
  requestTimeout : Nat
  deriving DecidableEq

namespace ServiceConfig

/-- The address of all interfaces. -/
def standardAddress : SocketAddress := .v4 ⟨0, 0, 0, 0⟩ 8080

/-- The settings where none is given. -/
def standard : ServiceConfig where
  bindAddress := standardAddress
  databaseUrl := none
  redisUrl := none
  seedPath := none
  switchTopic := standardTopic
  requestTimeout := 5000

/-- A setting: its text without blanks around it, unless it is blank. -/
def setting (lookup : String → Option String) (key : String) : Option String :=
  ((lookup key).map trim).filter (· ≠ "")

/-- The address to listen on. -/
def readAddress : Option String → Except ConfigError SocketAddress
  | none => .ok standard.bindAddress
  | some text =>
    match SocketAddress.parse? text with
    | some address => .ok address
    | none => .error ⟨"BIND_ADDR", "invalid socket address syntax"⟩

/-- The milliseconds that a request may take, at least one. -/
def readTimeout : Option String → Except ConfigError Nat
  | none => .ok standard.requestTimeout
  | some text =>
    match boundedNat (UInt64.size - 1) text.toList with
    | .error e => .error ⟨"REQUEST_TIMEOUT_MS", e.message⟩
    | .ok 0 => .error ⟨"REQUEST_TIMEOUT_MS", "must be greater than zero"⟩
    | .ok n => .ok n

/-- The settings that named texts make. Of two faults the address is reported. -/
def ofLookup (lookup : String → Option String) : Except ConfigError ServiceConfig := do
  let bindAddress ← readAddress (setting lookup "BIND_ADDR")
  let requestTimeout ← readTimeout (setting lookup "REQUEST_TIMEOUT_MS")
  return {
    bindAddress
    databaseUrl := setting lookup "DATABASE_URL"
    redisUrl := setting lookup "REDIS_URL"
    seedPath := setting lookup "TICKETS_SEED_PATH"
    switchTopic := (setting lookup "SWITCH_TOPIC").getD standard.switchTopic
    requestTimeout }

end ServiceConfig

/-! ## The form of the log -/

/-- How the log is written. -/
inductive LogFormat where
  | json
  | pretty
  deriving Repr, DecidableEq

namespace LogFormat

/-- The format of a name, blanks around it and its case aside; the error is the name as it was looked for. -/
def parse (s : String) : Except String LogFormat :=
  match (trim s).toLower with
  | "json" => .ok .json
  | "pretty" => .ok .pretty
  | other => .error other

/-- What is said of a name that is not known. -/
def unknown (name : String) : String :=
  "unknown log format " ++ quoted name ++ " (expected \"json\" or \"pretty\")"

/-- The format of a name that may be missing; JSON where there is none or it is not known. -/
def ofSetting (s : Option String) : LogFormat :=
  match s.map parse with
  | some (.ok format) => format
  | _ => .json

end LogFormat

end BoxOffice
