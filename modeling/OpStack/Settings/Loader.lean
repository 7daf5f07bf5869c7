import OpStack.Document.Toml
import OpStack.Environment.File
import OpStack.FileTree
import OpStack.Settings.Decode
import OpStack.Settings.Override

/-!
# OpStack.Settings.Loader

Settings made in layers.  A preset or a document replaces all settings made before;
variables change single ones at the end, after which the settings must be usable.
-/

namespace OpStack.Settings

/-- A layer of settings, or something that later layers depend on. -/
inductive Layer where
  /-- Forgets everything before, also the lead of the variables. -/
  | restart
  | preset (s : Settings)
  | document (content format : String)
  | file (path : String)
  /-- A file that may be missing. -/
  | optionalFile (path : String)
  /-- Has variables with this lead change the settings in the end. -/
  | variables (lead : String)
  /-- Sets variables by the file for that in the working directory, if it is there. -/
  | environmentFile

/-- Settings in the making. -/
structure Loader where
  settings : Settings := {}
  lead : Option String := none
  environment : Environment := []
  /-- What was told. -/
  events : List Event := []

/-- Reads settings in a format with the name; the names have no case. -/
def ofText (format : Option String) (content : String) (unknown : SettingsError) :
    Except SettingsError Settings :=
  match format.map Text.lower with
  | some "toml" => (decode .toml (Document.Toml.read content)).mapError .toml
  | some "json" => (decode .json (Document.Json.read content)).mapError .json
  | _ => .error unknown

/-- Reads settings from a file, whose name tells the format. -/
def ofFile (path : String) (content : List UInt8) : Except SettingsError Settings :=
  match Text.ofUtf8 content with
  | .error _ => .error (.unreadable path)
  | .ok text => ofText (FileTree.extension? path) text (.unsupportedFormat path)

/-- The name of the file that sets variables. -/
def environmentFileName : String := ".env"

namespace Loader

/-- Takes the settings from a file. -/
def readFile (l : Loader) (path : String) : FileNode → Except SettingsError Loader
  | .directory => .error (.unreadable path)
  | .file content => do
    let s ← ofFile path content
    return { l with settings := s, events := l.events ++ [.fileLoaded path] }

/-- Adds a layer. -/
def add (files : FileTree) (l : Loader) : Layer → Except SettingsError Loader
  | .restart => .ok { l with settings := {}, lead := none }
  | .preset s => .ok { l with settings := s }
  | .document content format => do
    let s ← ofText (some format) content (.unsupportedFormat format)
    return { l with settings := s }
  | .file path =>
    match files.find? path with
    | none => .error (.fileNotFound path)
    | some node => l.readFile path node
  | .optionalFile path =>
    match files.find? path with
    | none => .ok l
    | some node => l.readFile path node
  | .variables lead => .ok { l with lead := some (Text.upper lead) }
  | .environmentFile =>
    match files.find? environmentFileName with
    | some (.file content) =>
      match l.environment.loadFile? content with
      | some env => .ok { l with environment := env }
      | none => .error (.envFile "line cannot be read")
    | _ => .ok l

/-- Adds layers in turn, of which the first has the number `place`.  A fault comes with
the number of its layer. -/
def addAll (files : FileTree) (l : Loader) (place : Nat) :
    List Layer → Loader × Option (Nat × SettingsError)
  | [] => (l, none)
  | layer :: rest =>
    match l.add files layer with
    | .error e => (l, some (place, e))
    | .ok l => addAll files l (place + 1) rest

/-- The settings as the layers left them. -/
def unvalidated (l : Loader) : Overridden := ⟨.ok l.settings, []⟩

/-- The settings changed by the variables, if they can be used. -/
def load [Logging.FilterReader] (l : Loader) : Overridden :=
  let changed := match l.lead with
    | none => l.unvalidated
    | some lead => override lead l.settings l.environment
  { changed with
    result := do
      let s ← changed.result
      s.validate
      return s }

end Loader

end OpStack.Settings
