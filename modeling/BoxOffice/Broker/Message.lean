import BoxOffice.Log

/-!
# Messages and publishers

A publisher takes messages and may change as it does. It is given by its state and by what it does with a
message in a state, so that a statement about every publisher holds for any behaviour whatever.
-/

namespace BoxOffice

/-- A message for a topic. -/
structure Message where
  topic : String
  payload : String
  deriving Repr, DecidableEq

/-- Why a message was not published: the transport failed, or the publisher is shut down. -/
inductive PublishError where
  | transport (message : String)
  | closed
  deriving Repr, DecidableEq

/-- The wording of a publishing error. -/
def PublishError.text : PublishError → String
  | .transport message => "transport error: " ++ message
  | .closed => "publisher closed"

/-- What became of a message, and what was logged about it. -/
structure Receipt where
  outcome : Except PublishError Unit
  events : List LogEvent

/-- A publisher with states `π`. -/
structure Publisher (π : Type) where
  publish : π → Message → π × Receipt

namespace Publisher

/-- Fails with the same error for every message. -/
def failing (e : PublishError) : Publisher Unit := ⟨fun _ _ => ((), ⟨.error e, []⟩)⟩

/-- Refuses every message. -/
def refusing : Publisher Unit := failing (.transport "broker down")

/-- Is shut down. -/
def closed : Publisher Unit := failing .closed

end Publisher

end BoxOffice
