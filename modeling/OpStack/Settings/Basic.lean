import OpStack.Document.Draft
import OpStack.Logging.Options
import OpStack.Stack.Basic
import OpStack.Text.Blank

/-!
# OpStack.Settings.Basic

The settings of a program around one stack: a section for the stack and one for
its logging, with defaults and presets, what they mean for both, and when they
can be used.
-/

namespace OpStack

/-- The section of the stack. -/
structure StackSettings where
  id : String := "strata-stack"
  /-- Says whether invocations open spans. -/
  instrument : Bool := true
  deriving DecidableEq, Repr

/-- How log records are written. -/
inductive LogFormat where
  | json
  | pretty
  deriving DecidableEq, Repr

/-- The name of the format. -/
def LogFormat.word : LogFormat → String
  | json => "json"
  | pretty => "pretty"

/-- The section of the logging. -/
structure LoggingSettings where
  enabled : Bool := true
  /-- A level or the text of a filter. -/
  level : String := "info"
  format : LogFormat := .json
  ansiEnabled : Bool := false
  includeLocation : Bool := false
  deriving DecidableEq, Repr

/-- All settings. -/
structure Settings where
  stack : StackSettings := {}
  logging : LoggingSettings := {}
  deriving DecidableEq, Repr

/-- Why settings cannot be had. -/
inductive SettingsError where
  | fileNotFound (path : String)
  | unreadable (path : String)
  | toml (f : Document.Flaw)
  | json (f : Document.Flaw)
  | unsupportedFormat (format : String)
  | invalidValue (field reason : String)
  | badOverride (name reason : String)
  | envFile (reason : String)
  deriving DecidableEq, Repr

/-- The text of a fault in a document; syntax is told without details. -/
def Document.Flaw.message : Document.Flaw → String
  | syntaxError => "syntax error"
  | misfit m => m.message

/-- The text shown to the caller. -/
def SettingsError.message : SettingsError → String
  | fileNotFound path => "configuration file not found: " ++ path
  | unreadable path => "failed to read configuration file: " ++ path
  | toml f => "failed to parse TOML configuration: " ++ f.message
  | json f => "failed to parse JSON configuration: " ++ f.message
  | unsupportedFormat format => "unsupported configuration format: " ++ format
  | invalidValue field reason => "invalid configuration value for " ++ field ++ ": " ++ reason
  | badOverride name reason =>
    "failed to parse environment variable " ++ name ++ ": " ++ reason
  | envFile reason => "failed to load .env file: " ++ reason

namespace Settings

/-- Coloured logs of level debug, with locations. -/
def development : Settings where
  logging :=
    { level := "debug", format := .pretty, ansiEnabled := true, includeLocation := true }

/-- JSON logs of level info. -/
def production : Settings where
  logging := { level := "info", format := .json, ansiEnabled := false }

/-- What the stack is made from. -/
def stackOptions (s : Settings) : StackOptions := ⟨s.stack.id, s.stack.instrument⟩

/-- What logging is set up with: the preset of the format, changed by the section, under
the name of the stack. -/
def loggingOptions (s : Settings) : Logging.Options :=
  let preset := match s.logging.format with
    | .json => Logging.Options.production
    | .pretty => Logging.Options.development
  { preset with
    enabled := s.logging.enabled
    level := s.logging.level
    ansi := s.logging.ansiEnabled
    location := s.logging.includeLocation
    service := s.stack.id }

/-- Settings can be used if the identifier of the stack shows, and the level is a filter
unless logging is disabled.  The identifier is looked at first. -/
def validate [Logging.FilterReader] (s : Settings) : Except SettingsError Unit :=
  if Text.isBlankText s.stack.id then .error (.invalidValue "stack.id" "must not be empty")
  else if s.logging.enabled then
    match Logging.createFilter s.logging.level with
    | .ok _ => .ok ()
    | .error e => .error (.invalidValue "logging.level" e.message)
  else .ok ()

end Settings

end OpStack
