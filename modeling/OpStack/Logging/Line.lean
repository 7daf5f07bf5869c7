import OpStack.Logging.Directive
import OpStack.Logging.Setup

/-!
# OpStack.Logging.Line

The log lines that a trace leads to.  A line is written for every event that
passes the filter, and if span events are wanted also for every passing span when
it opens and when it closes.  Spans that do not pass are not mentioned in lines.
-/

namespace OpStack.Logging

/-- A line of the log. -/
structure Line where
  level : Level
  target : String
  message : String
  fields : List (String × FieldValue) := []
  /-- The line also gives the times that a span was busy and idle. -/
  timed : Bool := false
  /-- The span that the line is about: the innermost around an event. -/
  span : Option Span
  /-- The spans around the line, outermost first. -/
  spans : List Span
  /-- The line is about the span itself, which is inside `spans`. -/
  ofSpan : Bool := false
  deriving DecidableEq, Repr

namespace Installed

/-- The span passes the filter. -/
def shows (l : Installed) (s : Span) : Bool := Directives.passes l.filter s.target s.level

/-- The line of a record, if one is written. -/
def line? (l : Installed) : Record → Option Line
  | .event e within =>
    let spans := within.filter l.shows
    if Directives.passes l.filter e.target e.level then
      some { level := e.level, target := e.target, message := e.message, fields := e.fields,
             span := spans.getLast?, spans }
    else none
  | .opened s within =>
    if l.options.spanEvents && l.shows s then
      some { level := s.level, target := s.target, message := "new", span := some s,
             spans := within.filter l.shows, ofSpan := true }
    else none
  | .closed s within =>
    if l.options.spanEvents && l.shows s then
      some { level := s.level, target := s.target, message := "close", timed := true,
             span := some s, spans := within.filter l.shows, ofSpan := true }
    else none

/-- The lines of a trace, after the one that tells of the installation. -/
def lines (l : Installed) (trace : List Record) : List Line :=
  (l.ready :: trace).filterMap l.line?

end Installed

/-! ## Texts of several lines -/

/-- What texts of several lines show. -/
structure Shown where
  ansi : Bool
  /-- Per record the level and the first word behind it. -/
  heads : List String
  /-- How many lines give a location. -/
  locations : Nat
  /-- How many lines name a span. -/
  spans : Nat
  deriving DecidableEq, Repr

namespace Line

/-- The characters up to the first blank. -/
def firstWord (s : String) : String := String.ofList (s.toList.takeWhile (· ≠ ' '))

/-- The message; a comma sets it off from fields. -/
def lead (l : Line) : String :=
  if l.fields.isEmpty && !l.timed then l.message else l.message ++ ","

/-- Level and first word: the target, or without targets that of the message. -/
def head (withTarget : Bool) (l : Line) : String :=
  l.level.name ++ " " ++ (if withTarget then l.target ++ ":" else firstWord l.lead)

/-- How many spans the text names: those around the line, and its own. -/
def named (l : Line) : Nat := l.spans.length + if l.ofSpan then 1 else 0

end Line

/-- The texts of the lines, seen from afar.  Every text gives its location. -/
def Installed.shown (l : Installed) (lines : List Line) : Shown where
  ansi := l.options.ansi
  heads := lines.map (·.head l.options.withTarget)
  locations := lines.length
  spans := lines.foldl (fun n l => n + l.named) 0

end OpStack.Logging
