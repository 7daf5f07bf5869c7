import OpStack.Registry.Basic
import OpStack.StepId

/-!
# OpStack.Trace

What is told to an observer: events, and spans that are opened and closed.  Every
record carries the spans that were active around it, outermost first.
-/

namespace OpStack

/-- How weighty a record is; the first level is the weightiest. -/
inductive Level where
  | error
  | warn
  | info
  | debug
  | trace
  deriving DecidableEq, Repr

def Level.name : Level → String
  | error => "ERROR"
  | warn => "WARN"
  | info => "INFO"
  | debug => "DEBUG"
  | trace => "TRACE"

/-- The place of the level, counted from the weightiest, which is the first. -/
def Level.rank : Level → Nat
  | error => 1
  | warn => 2
  | info => 3
  | debug => 4
  | trace => 5

/-- The content of a field of a record. -/
inductive FieldValue where
  | text (s : String)
  | count (n : Nat)
  | flag (b : Bool)
  deriving DecidableEq, Repr

/-- An invocation of a stack or a step that is under way. -/
inductive Span where
  | stack (id : String)
  | step (id : StepId)
  deriving DecidableEq, Repr

namespace Span

/-- The name of the kind of span. -/
def name : Span → String
  | stack _ => "stack"
  | step _ => "step"

/-- The part of the program that opens the span. -/
def target : Span → String
  | stack _ => "strata_middleware::pipeline"
  | step _ => "strata_middleware::step"

/-- The identifier in the span, with the name of its field. -/
def field : Span → String × String
  | stack id => ("stack_id", id)
  | step id => ("step_id", id.name)

/-- Kind and identifier in one text. -/
def label (s : Span) : String := s.name ++ ":" ++ s.field.2

/-- Spans are for developers. -/
def level (_ : Span) : Level := .debug

end Span

/-- What a middleware or a handler tells on its own account. -/
structure Remark where
  level : Level
  target : String
  message : String
  fields : List (String × FieldValue)
  deriving DecidableEq, Repr

/-- Something that happened. -/
inductive Event where
  | registry (e : Registry.Event)
  /-- A step was entered that has so many middleware. -/
  | stepStarted (step : StepId) (middleware : Nat)
  /-- An invocation of the stack failed with the error text. -/
  | stackFailed (stack error : String)
  | fileLoaded (path : String)
  | overrideIgnored (name : String)
  | loggingReady (service : String) (json : Bool)
  | remark (r : Remark)
  deriving DecidableEq, Repr

namespace Event

/-- How weighty the event is. -/
def level : Event → Level
  | registry _ => .trace
  | overrideIgnored _ => .warn
  | stepStarted .. | stackFailed .. | fileLoaded _ | loggingReady .. => .debug
  | remark r => r.level

/-- The part of the program that tells the event. -/
def target : Event → String
  | registry _ => "strata_middleware::ordered"
  | stepStarted .. => "strata_middleware::step"
  | stackFailed .. => "strata_middleware::pipeline"
  | fileLoaded _ | overrideIgnored _ => "strata_config::loader"
  | loggingReady .. => "strata_telemetry::logging"
  | remark r => r.target

/-- The text of the event. -/
def message : Event → String
  | registry .cleared => "ordered ids cleared"
  | registry (.removed _) => "middleware removed"
  | registry (.added ..) => "middleware added"
  | registry (.inserted ..) => "middleware inserted"
  | registry (.swapped ..) => "middleware swapped"
  | stepStarted .. => "step started"
  | stackFailed .. => "stack invocation failed"
  | fileLoaded _ => "configuration file loaded"
  | overrideIgnored _ => "ignoring unknown configuration override"
  | loggingReady .. => "logging initialized"
  | remark r => r.message

/-- The fields of the event beside its text. -/
def fields : Event → List (String × FieldValue)
  | registry .cleared => []
  | registry (.removed id) => [("middleware_id", .text id)]
  | registry (.added id position) =>
    [("middleware_id", .text id), ("position", .text position.name)]
  | registry (.inserted id anchor position) =>
    [("middleware_id", .text id), ("relative_to", .text anchor),
     ("position", .text position.name)]
  | registry (.swapped id none) => [("middleware_id", .text id)]
  | registry (.swapped id (some replacement)) =>
    [("middleware_id", .text id), ("replacement", .text replacement)]
  | stepStarted step middleware =>
    [("step_id", .text step.name), ("middleware", .count middleware)]
  | stackFailed stack error => [("stack_id", .text stack), ("error", .text error)]
  | fileLoaded path => [("path", .text path)]
  | overrideIgnored name => [("var", .text name)]
  | loggingReady service json => [("service_name", .text service), ("json", .flag json)]
  | remark r => r.fields

end Event

/-- One entry of a trace, with the spans around it. -/
inductive Record where
  | opened (span : Span) (within : List Span)
  | closed (span : Span) (within : List Span)
  | event (e : Event) (within : List Span)
  deriving DecidableEq, Repr

namespace Record

/-- The spans around the record, outermost first. -/
def within : Record → List Span
  | opened _ w | closed _ w | event _ w => w

/-- The event of the record, if it is one. -/
def event? : Record → Option Event
  | event e _ => some e
  | _ => none

end Record

end OpStack
