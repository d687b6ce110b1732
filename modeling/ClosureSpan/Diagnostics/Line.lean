import ClosureSpan.Diagnostics.Event
import ClosureSpan.Text.ControlCode
import ClosureSpan.Text.Quoted

/-!
# Diagnostic lines

An event is written as its level, target, message, and then its fields as `name=value`.  The message
may quote what a user or a class file says, so its control codes are written out; a field is written
as its kind of value tells.  All this is one line, unless the message or a plain field has ends of
lines of its own.

## Main definitions

* `Event.text` — the text of an event.
* `Event.lines` — the lines of that text.
-/

namespace ClosureSpan

/-- The text of a field value. -/
def FieldValue.text : FieldValue → String
  | number value => toString value
  | flag true => "true"
  | flag false => "false"
  | plain value => value
  | quoted value => Quoted.encode value

/-- The text of an event. -/
def Event.text (event : Event) : String :=
  event.level.name ++ " " ++ Event.target ++ ": " ++ ControlCode.reveal event.message
    ++ String.join (event.fields.map fun field => " " ++ field.1 ++ "=" ++ field.2.text)

/-- The lines of an event. -/
def Event.lines (event : Event) : List String :=
  (event.text.toList.splitOn '\n').map String.ofList

end ClosureSpan
