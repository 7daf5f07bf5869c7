import OpStack.Environment.Basic
import OpStack.Settings.Basic
import OpStack.Text.LetterCase
import OpStack.Trace

/-!
# OpStack.Settings.Override

Settings changed by variables.  A variable does so if its name is a lead, two
underscores and the name of a setting.  A name with the lead and the underscores
but no setting is told about; any other variable has no meaning here.
-/

namespace OpStack.Settings

/-- The truth value that a word stands for, in any case of letters. -/
def flag? (value : String) : Option Bool :=
  let word := Text.lower value
  if word = "true" || word = "1" || word = "yes" || word = "on" then some true
  else if word = "false" || word = "0" || word = "no" || word = "off" then some false
  else none

/-- The format that a word stands for, in any case of letters. -/
def format? (value : String) : Option LogFormat :=
  let word := Text.lower value
  if word = "json" then some .json
  else if word = "pretty" then some .pretty
  else none

/-- A setting that a variable can change, and how; or why the value is wrong. -/
structure Override where
  name : String
  change : String → Settings → Except String Settings

namespace Override

def text (name : String) (set : Settings → String → Settings) : Override :=
  ⟨name, fun value s => .ok (set s value)⟩

/-- A setting that is a truth value. -/
def flag (name : String) (set : Settings → Bool → Settings) : Override :=
  ⟨name, fun value s =>
    match flag? value with
    | some b => .ok (set s b)
    | none => .error "expected boolean"⟩

/-- The setting that is a format. -/
def format (name : String) (set : Settings → LogFormat → Settings) : Override :=
  ⟨name, fun value s =>
    match format? value with
    | some f => .ok (set s f)
    | none => .error "expected 'json' or 'pretty'"⟩

/-- All settings that variables can change. -/
def all : List Override :=
  [text "STACK__ID" fun s v => { s with stack.id := v },
   flag "STACK__INSTRUMENT" fun s v => { s with stack.instrument := v },
   flag "LOGGING__ENABLED" fun s v => { s with logging.enabled := v },
   text "LOGGING__LEVEL" fun s v => { s with logging.level := v },
   format "LOGGING__FORMAT" fun s v => { s with logging.format := v },
   flag "LOGGING__ANSI_ENABLED" fun s v => { s with logging.ansiEnabled := v },
   flag "LOGGING__INCLUDE_LOCATION" fun s v => { s with logging.includeLocation := v }]

/-- What a variable's name says behind the lead and two underscores. -/
def setting? (lead name : String) : Option String :=
  let front := (lead ++ "__").toList
  if front.isPrefixOf name.toList then some (String.ofList (name.toList.drop front.length))
  else none

end Override

/-- What one variable does to settings: the changed settings, and whether its name is
to be told. -/
def overrideBy (lead : String) (s : Settings) (name value : String) :
    Except SettingsError (Settings × Bool) :=
  match Override.setting? lead name with
  | none => .ok (s, false)
  | some setting =>
    match Override.all.find? (·.name == setting) with
    | none => .ok (s, true)
    | some o =>
      match o.change value s with
      | .ok s => .ok (s, false)
      | .error reason => .error (.badOverride name reason)

/-- What came of changing settings: the settings, or the fault that ended it, and what
was told. -/
structure Overridden where
  result : Except SettingsError Settings
  events : List Event := []

/-- Tells of the variable, if it is to be told, before anything else. -/
def Overridden.telling (r : Overridden) (told : Bool) (name : String) : Overridden :=
  if told then { r with events := .overrideIgnored name :: r.events } else r

/-- Changes settings by the variables in turn. -/
def override (lead : String) (s : Settings) : Environment → Overridden
  | [] => ⟨.ok s, []⟩
  | (name, value) :: rest =>
    match overrideBy lead s name value with
    | .ok (s, told) => (override lead s rest).telling told name
    | .error e => ⟨.error e, []⟩

end OpStack.Settings
