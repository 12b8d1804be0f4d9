/-!
# Trace events

## Main definitions

* `Level`: how important an event is
* `TraceEvent`: an event, or the beginning of a span, with its fields
* `TraceEvent.text`: one line that shows it
-/

namespace Outbound

/-- How important an event is. -/
inductive Level
  | trace
  | debug
  | info
  | warn
  | error
deriving DecidableEq, Repr, Inhabited

/-- The name of a level in lines of the trace. -/
def Level.label : Level → String
  | .trace => "TRACE"
  | .debug => "DEBUG"
  | .info => "INFO"
  | .warn => "WARN"
  | .error => "ERROR"

/-- **An event of the trace,** or the beginning of a span. -/
structure TraceEvent where
  /-- The level of an event, none for a span. -/
  level : Option Level
  /-- The message of an event or the name of a span. -/
  message : String
  /-- The fields with their texts. -/
  fields : List (String × String)
deriving DecidableEq, Repr, Inhabited

/-- One line that shows the event. -/
def TraceEvent.text (e : TraceEvent) : String :=
  " ".intercalate (((e.level.map Level.label).getD "SPAN") :: e.message ::
    e.fields.map fun f => f.1 ++ "=" ++ f.2)

end Outbound
