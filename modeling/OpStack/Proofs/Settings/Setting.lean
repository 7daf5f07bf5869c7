import OpStack.Settings.Override

/-!
# OpStack.Proofs.Settings.Setting

The seven single settings: where each is kept (`get`, `set`), what it is called in documents
(`title`, `field`) and in variables (`suffix`), and which texts stand for its values
(`parse?`).

Changes of different settings do not meet (`get_set_of_ne`, `set_comm`).
-/

namespace OpStack

/-- One of the settings. -/
inductive Setting where
  | stackId
  | instrument
  | enabled
  | level
  | format
  | ansiEnabled
  | includeLocation
  deriving DecidableEq, Repr

namespace Setting

def all : List Setting :=
  [stackId, instrument, enabled, level, format, ansiEnabled, includeLocation]

def flags : List Setting := [instrument, enabled, ansiEnabled, includeLocation]

abbrev Value : Setting → Type
  | stackId | level => String
  | instrument | enabled | ansiEnabled | includeLocation => Bool
  | format => LogFormat

def get (s : Settings) : (i : Setting) → i.Value
  | stackId => s.stack.id
  | instrument => s.stack.instrument
  | enabled => s.logging.enabled
  | level => s.logging.level
  | format => s.logging.format
  | ansiEnabled => s.logging.ansiEnabled
  | includeLocation => s.logging.includeLocation

def set (s : Settings) : (i : Setting) → i.Value → Settings
  | stackId, v => { s with stack.id := v }
  | instrument, v => { s with stack.instrument := v }
  | enabled, v => { s with logging.enabled := v }
  | level, v => { s with logging.level := v }
  | format, v => { s with logging.format := v }
  | ansiEnabled, v => { s with logging.ansiEnabled := v }
  | includeLocation, v => { s with logging.includeLocation := v }

def title : Setting → String
  | stackId | instrument => "stack"
  | enabled | level | format | ansiEnabled | includeLocation => "logging"

def field : Setting → String
  | stackId => "id"
  | instrument => "instrument"
  | enabled => "enabled"
  | level => "level"
  | format => "format"
  | ansiEnabled => "ansi_enabled"
  | includeLocation => "include_location"

/-- What the name of a variable says behind the lead and two underscores. -/
def suffix : Setting → String
  | stackId => "STACK__ID"
  | instrument => "STACK__INSTRUMENT"
  | enabled => "LOGGING__ENABLED"
  | level => "LOGGING__LEVEL"
  | format => "LOGGING__FORMAT"
  | ansiEnabled => "LOGGING__ANSI_ENABLED"
  | includeLocation => "LOGGING__INCLUDE_LOCATION"

/-- The value that the text of a variable stands for.  Every text is a text. -/
def parse? : (i : Setting) → String → Option i.Value
  | stackId, value | level, value => some value
  | instrument, value | enabled, value | ansiEnabled, value | includeLocation, value =>
    Settings.flag? value
  | format, value => Settings.format? value

/-- What is wrong with a text that stands for no value. -/
def complaint : Setting → String
  | format => "expected 'json' or 'pretty'"
  | stackId | instrument | enabled | level | ansiEnabled | includeLocation => "expected boolean"

/-! ## Reading and changing -/

theorem get_set_self (i : Setting) (s : Settings) (v : i.Value) : i.get (i.set s v) = v := by
  cases i <;> rfl

/-- Settings do not meet: to set one leaves the others. -/
theorem get_set_of_ne {i j : Setting} (h : j ≠ i) (s : Settings) (v : i.Value) :
    j.get (i.set s v) = j.get s := by
  cases i <;> cases j <;> simp_all [get, set]

/-- Changes of different settings can be exchanged. -/
theorem set_comm {i j : Setting} (h : i ≠ j) (s : Settings) (v : i.Value) (u : j.Value) :
    j.set (i.set s v) u = i.set (j.set s u) v := by
  cases i <;> cases j <;> simp_all [set]

/-- Settings are the same if all single settings are. -/
theorem eq_of_get {s t : Settings} (h : ∀ i : Setting, i.get s = i.get t) : s = t := by
  obtain ⟨⟨_, _⟩, ⟨_, _, _, _, _⟩⟩ := s
  obtain ⟨⟨_, _⟩, ⟨_, _, _, _, _⟩⟩ := t
  simp only [Settings.mk.injEq, StackSettings.mk.injEq, LoggingSettings.mk.injEq]
  exact ⟨⟨h stackId, h instrument⟩, h enabled, h level, h format, h ansiEnabled,
    h includeLocation⟩

/-- Every setting is in the list. -/
theorem mem_all (i : Setting) : i ∈ all := by
  cases i <;> decide

/-- No two settings have the same variable. -/
theorem suffix_inj {i j : Setting} (h : i.suffix = j.suffix) : i = j := by
  cases i <;> cases j <;> simp_all [suffix]

end Setting

end OpStack
