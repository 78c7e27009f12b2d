/-!
# Log events

What the program writes to its log, as data: an event has a level, a message, fields, and the spans in which
it happens, the outermost first.
-/

namespace BoxOffice

/-- How much an event matters. -/
inductive LogLevel where
  | debug
  | info
  | warn
  | error
  deriving Repr, DecidableEq

/-- The word for a level. -/
def LogLevel.name : LogLevel → String
  | .debug => "DEBUG"
  | .info => "INFO"
  | .warn => "WARN"
  | .error => "ERROR"

/-- The named values of an event or a span, as text. -/
abbrev LogFields := List (String × String)

/-- A stretch of work in which events happen. -/
structure Span where
  name : String
  fields : LogFields
  deriving Repr, DecidableEq

/-- One entry of the log. -/
structure LogEvent where
  level : LogLevel
  message : Option String
  fields : LogFields
  spans : List Span
  deriving Repr, DecidableEq

namespace LogEvent

/-- An event with a message, outside all spans. -/
def of (level : LogLevel) (message : String) (fields : LogFields) : LogEvent :=
  ⟨level, some message, fields, []⟩

/-- An event that a piece of work reports when it fails. -/
def failure (error : String) : LogEvent := ⟨.error, none, [("error", error)], []⟩

/-- The event inside further spans, which are put around its own. -/
def within (spans : List Span) (e : LogEvent) : LogEvent := { e with spans := spans ++ e.spans }

@[simp] theorem level_within (spans : List Span) (e : LogEvent) :
    (e.within spans).level = e.level := rfl

@[simp] theorem message_within (spans : List Span) (e : LogEvent) :
    (e.within spans).message = e.message := rfl

@[simp] theorem fields_within (spans : List Span) (e : LogEvent) :
    (e.within spans).fields = e.fields := rfl

end LogEvent

end BoxOffice
