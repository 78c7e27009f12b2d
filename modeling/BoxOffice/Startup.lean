import BoxOffice.Broker.Hub
import BoxOffice.Broker.RedisUrl
import BoxOffice.Config
import BoxOffice.FileTree
import BoxOffice.Http.App
import BoxOffice.Store.DatabaseUrl
import BoxOffice.Store.Postgres

/-!
# Starting the program

From the settings follow the store and the publisher: a database if there is a URL for one, else documents in
memory, seeded from a file if there is a path for one; a server for messages if there is a URL for one, else a
publisher in memory. The store is prepared first. What is found outside the program is a parameter.
-/

namespace BoxOffice

/-- Why a database cannot be reached: the way to it is closed, or it does not answer in time. -/
inductive ConnectionError where
  | closed (problem : String)
  | timedOut
  deriving Repr, DecidableEq

/-- The wording of a connection error. -/
def ConnectionError.text : ConnectionError → String
  | .closed problem => "error communicating with database: " ++ problem
  | .timedOut => "pool timed out while waiting for an open connection"

/-- What is found outside the program: files by their paths, databases, and servers for messages. -/
structure Surroundings (ρ β : Type) where
  file : String → Except FileError (List UInt8)
  database : DatabaseTarget → Except ConnectionError ρ
  server : RedisTarget → β

/-- Why a database cannot be used: its URL is wrong, it cannot be reached, or it refuses. -/
inductive DatabaseProblem where
  | url (e : DatabaseUrlError)
  | connection (e : ConnectionError)
  | refusal (message : String)
  deriving Repr, DecidableEq

/-- The wording of a database problem. -/
def DatabaseProblem.text : DatabaseProblem → String
  | .url e => e.message
  | .connection e => e.text
  | .refusal message => databaseError message

/-- Why the program does not start. -/
inductive StartupError where
  | seed (e : SeedError)
  | database (problem : DatabaseProblem)
  | broker (e : PublishError)
  deriving Repr, DecidableEq

/-- The wording of a startup error. -/
def StartupError.text : StartupError → String
  | .seed e => "failed to seed in-memory ticket store: " ++ e.text
  | .database problem => "failed to prepare postgres ticket store: " ++ problem.text
  | .broker e => "failed to configure notification broker: " ++ e.text

/-! ## Stores and publishers by choice -/

/-- A store in memory or in a database. -/
inductive StoreChoice (ρ : Type) where
  | memory (s : MemoryStore)
  | database (state : ρ)

/-- The chosen store. -/
def StoreChoice.store {ρ : Type} (db : Database ρ) : TicketStore (StoreChoice ρ) where
  many
    | .memory s, q => (MemoryStore.store.many s q).map .memory id
    | .database s, q => (db.store.many s q).map .database id
  one
    | .memory s, q => (MemoryStore.store.one s q).map .memory id
    | .database s, q => (db.store.one s q).map .database id

/-- A publisher in memory or on a server. -/
inductive BrokerChoice (β : Type) where
  | memory (h : Hub)
  | redis (p : RedisPublisher β)

/-- The chosen publisher. -/
def BrokerChoice.publisher {β : Type} (server : RedisServer β) : Publisher (BrokerChoice β) where
  publish
    | .memory h, m => (Hub.publisher.publish h m).map .memory id
    | .redis p, m => ((RedisPublisher.publisher server).publish p m).map .redis id

/-! ## Services -/

/-- What the program starts with. -/
structure Services (ρ β : Type) where
  app : Http.App
  store : StoreChoice ρ
  broker : BrokerChoice β
  events : List LogEvent

namespace Services

variable {ρ β : Type}

/-- The store for the settings, with the events of its preparation. -/
def prepareStore (world : Surroundings ρ β) (db : Database ρ) (c : ServiceConfig) :
    Except StartupError (StoreChoice ρ × List LogEvent) :=
  match c.databaseUrl, c.seedPath with
  | some text, _ => do
    let target ← (DatabaseTarget.parse text).mapError fun e => .database (.url e)
    let state ← (world.database target).mapError fun e => .database (.connection e)
    let (state, outcome) := db.ensureSchema state
    outcome.mapError fun message => .database (.refusal message)
    return (.database state, [.of .info "using postgres ticket store" []])
  | none, some path => do
    let s ← (MemoryStore.ofSeed (world.file path)).mapError .seed
    return (.memory s, [s.seeded])
  | none, none =>
    .ok (.memory .empty,
      [.of .warn "DATABASE_URL not set; using empty in-memory ticket store" []])

/-- The publisher for the settings, with the events of its preparation. -/
def prepareBroker (world : Surroundings ρ β) (c : ServiceConfig) :
    Except StartupError (BrokerChoice β × List LogEvent) :=
  match c.redisUrl with
  | some text => do
    let target ← (RedisTarget.parse text).mapError fun e => .broker (.transport e.message)
    return (.redis (.disconnected (world.server target)),
      [.of .info "publishing switch notifications to redis" []])
  | none =>
    .ok (.memory .empty,
      [.of .warn "REDIS_URL not set; switch notifications stay in memory" []])

/-- The services for the settings. -/
def prepare (world : Surroundings ρ β) (db : Database ρ) (c : ServiceConfig) :
    Except StartupError (Services ρ β) := do
  let (store, stored) ← prepareStore world db c
  let (broker, brokered) ← prepareBroker world c
  return {
    app := ⟨.withTopic c.switchTopic, c.requestTimeout⟩
    store, broker
    events := stored ++ brokered }

end Services

end BoxOffice
