import OpStack.Logging.Filter

/-!
# OpStack.Logging.Options

What logging can be set up with, the presets, and why setting it up can fail.
-/

namespace OpStack.Logging

/-- How log records are filtered and written. -/
structure Options where
  enabled : Bool
  /-- The text of the filter. -/
  level : String
  /-- Records as JSON objects; otherwise a text of several lines. -/
  json : Bool
  /-- Records also when a span is opened or closed. -/
  spanEvents : Bool
  /-- File and line of the code that told the record. -/
  location : Bool
  threadIds : Bool
  /-- The part of the program that told the record. -/
  withTarget : Bool
  /-- Colours, in texts of several lines. -/
  ansi : Bool
  service : String
  deriving DecidableEq, Repr

namespace Options

/-- Coloured texts at level debug, with spans and locations. -/
def development : Options where
  enabled := true
  level := "debug"
  json := false
  spanEvents := true
  location := true
  threadIds := false
  withTarget := true
  ansi := true
  service := "strata"

/-- JSON objects at level info. -/
def production : Options where
  enabled := true
  level := "info"
  json := true
  spanEvents := false
  location := false
  threadIds := false
  withTarget := true
  ansi := false
  service := "strata"

instance : Inhabited Options := ⟨production⟩

end Options

/-- Why logging cannot be set up. -/
inductive SetupError where
  /-- The level is no filter. -/
  | invalidLevel (level reason : String)
  /-- Installing failed. -/
  | install (reason : String)
  deriving DecidableEq, Repr

/-- The text shown to the caller. -/
def SetupError.message : SetupError → String
  | invalidLevel level reason => "Invalid log level '" ++ level ++ "': " ++ reason
  | install reason => "Failed to initialize logging: " ++ reason

/-- Logging was installed before. -/
def SetupError.alreadyInstalled : SetupError :=
  install "a global default trace dispatcher has already been set"

/-- The filter of the level, or why it is none. -/
def createFilter [FilterReader] (level : String) : Except SetupError FilterReader.Filter :=
  match FilterReader.read level with
  | .ok f => .ok f
  | .error reason => .error (.invalidLevel level reason)

end OpStack.Logging
