import OpStack.Logging.Options

/-!
# OpStack.Logging.Setup

Installing logging for the whole process, which works once.  Disabled options
change nothing and succeed; a bad level is reported whether or not logging is
installed already.
-/

namespace OpStack.Logging

variable [FilterReader]

/-- Logging that is in force. -/
structure Installed where
  options : Options
  filter : FilterReader.Filter

/-- Installs logging, unless it is installed already. -/
def setUp (installed : Option Installed) (options : Options) :
    Except SetupError Unit × Option Installed :=
  if options.enabled then
    match createFilter options.level, installed with
    | .error e, _ => (.error e, installed)
    | .ok _, some _ => (.error .alreadyInstalled, installed)
    | .ok filter, none => (.ok (), some ⟨options, filter⟩)
  else (.ok (), installed)

/-- Tries one set of options after the other. -/
def setUpAll (installed : Option Installed) :
    List Options → List (Except SetupError Unit) × Option Installed
  | [] => ([], installed)
  | options :: rest =>
    let one := setUp installed options
    let others := setUpAll one.2 rest
    (one.1 :: others.1, others.2)

/-- What is told when logging comes into force. -/
def Installed.ready (l : Installed) : Record :=
  .event (.loggingReady l.options.service l.options.json) []

end OpStack.Logging
