/-!
# Diagnostic events

What the program tells a person who watches it.  An event has a level, a message and named values;
it changes nothing else.

## Main definitions

* `Level` — how important an event is, with the order in which a filter admits them.
* `Event` — a message and its fields.
-/

namespace ClosureSpan

/-- The importance of an event, the most important first. -/
inductive Level where
  /-- Something is lost. -/
  | error
  /-- Something will not work. -/
  | warn
  /-- A step in the life of the agent. -/
  | info
  /-- What was decided. -/
  | debug
  /-- What was looked at. -/
  | trace
  deriving Repr, DecidableEq

namespace Level

/-- The position of a level, from the most important on. -/
def rank : Level → Nat
  | error => 1
  | warn => 2
  | info => 3
  | debug => 4
  | trace => 5

/-- The name of a level in an event. -/
def name : Level → String
  | error => "ERROR"
  | warn => "WARN"
  | info => "INFO"
  | debug => "DEBUG"
  | trace => "TRACE"

/-- Whether a bound admits a level.  No bound at all admits nothing. -/
def admittedBy (level : Level) : Option Level → Bool
  | none => false
  | some bound => level.rank ≤ bound.rank

end Level

/-- The value of a field. -/
inductive FieldValue where
  /-- A number. -/
  | number (value : Int)
  /-- A truth value. -/
  | flag (value : Bool)
  /-- A text that is shown as it stands. -/
  | plain (value : String)
  /-- A text that is shown between quotes. -/
  | quoted (value : String)
  deriving Repr, DecidableEq

/-- A message with named values. -/
structure Event where
  /-- How important the event is. -/
  level : Level
  /-- What happened. -/
  message : String
  /-- The values that belong to it, in the order they are shown. -/
  fields : List (String × FieldValue) := []
  deriving Repr, DecidableEq

/-- The name under which all events are filed. -/
def Event.target : String := "lambda_location"

end ClosureSpan
