import OpStack.Settings.Basic

/-!
# OpStack.Settings.Decode

Settings taken from a document.  A section is a table with known names, each at
most once, or a list of its fields in order; what is left out has its default.
Members are looked at in the order of the document, a name before its value.
-/

namespace OpStack.Settings

open Document

/-- The kinds of documents, which differ in small points. -/
inductive Dialect where
  | toml
  | json
  deriving DecidableEq, Repr

/-- A field of a section: its name, and how its value changes the section. -/
structure Field (σ : Type) where
  name : String
  read : Draft → σ → Except Flaw σ

variable {σ : Type}

/-- The field with the name. -/
def field? (fields : List (Field σ)) (name : String) : Option (Field σ) :=
  fields.find? (·.name == name)

/-- Reads the members of a table; `seen` are the names that came before. -/
def readMembers (fields : List (Field σ)) (seen : List String) (s : σ) :
    List (Draft × Draft) → Except Flaw σ
  | [] => .ok s
  | (.text name, value) :: rest =>
    match field? fields name with
    | none => .error (.misfit (.unknownField name (fields.map (·.name))))
    | some f =>
      if seen.contains name then .error (.misfit (.duplicateField name))
      else do
        let s ← f.read value s
        readMembers fields (name :: seen) s rest
  | _ :: _ => .error .syntaxError

/-- Reads the values of the fields in order.  A JSON list may not have more values. -/
def readItems (dialect : Dialect) (s : σ) : List (Field σ) → List Draft → Except Flaw σ
  | _, [] => .ok s
  | [], _ :: _ => if dialect = .json then .error .syntaxError else .ok s
  | f :: fs, d :: ds => do
    let s ← f.read d s
    readItems dialect s fs ds

/-- The name under which a date or a time has its parts. -/
def momentName : String := "$__toml_private_datetime"

/-- Reads a section, starting from its defaults. -/
def readSection (dialect : Dialect) (title : String) (fields : List (Field σ)) (s : σ)
    (d : Draft) : Except Flaw σ :=
  match d with
  | .table members => readMembers fields [] s members
  | .list items => readItems dialect s fields items
  | .moment => .error (.misfit (.unknownField momentName (fields.map (·.name))))
  | d => .error (d.mistyped ("struct " ++ title))

/-- Reads a text. -/
def readText : Draft → Except Flaw String
  | .text s => .ok s
  | d => .error (d.mistyped "a string")

/-- Reads a truth value. -/
def readFlag : Draft → Except Flaw Bool
  | .flag b => .ok b
  | d => .error (d.mistyped "a boolean")

/-- The format with the name. -/
def formatNamed (name : String) : Except Flaw LogFormat :=
  if name = "json" then .ok .json
  else if name = "pretty" then .ok .pretty
  else .error (.misfit (.unknownVariant name ["json", "pretty"]))

/-- Reads what stands behind the name of a format in a TOML table: nothing that counts. -/
def readNothing : Draft → Except Flaw Unit
  | .list [] | .table [] => .ok ()
  | .list _ | .table _ => .error (.misfit .choiceNotEmpty)
  | .text _ => .error (.misfit (.choiceNoTable "string"))
  | .integer _ => .error (.misfit (.choiceNoTable "integer"))
  | .decimal _ => .error (.misfit (.choiceNoTable "float"))
  | .flag _ => .error (.misfit (.choiceNoTable "boolean"))
  | .moment => .error (.misfit (.choiceNoTable "datetime"))
  | .null | .broken => .error .syntaxError

/-- Reads a format: its name, or a table with the name and nothing behind it. -/
def readFormat : Dialect → Draft → Except Flaw LogFormat
  | _, .text s => formatNamed s
  | .json, .table ((.text name, value) :: rest) => do
    let format ← formatNamed name
    match value with
    | .null => if rest.isEmpty then .ok format else .error .syntaxError
    | d => .error (d.mistyped "unit")
  | .json, .table ((name, _) :: _) => .error (name.mistyped "variant identifier")
  | .json, _ => .error .syntaxError
  | .toml, .table [] => .error (.misfit (.choiceCount false))
  | .toml, .table [(.text name, value)] => do
    let format ← formatNamed name
    readNothing value
    return format
  | .toml, .table _ => .error (.misfit (.choiceCount true))
  | .toml, _ => .error (.misfit .noChoice)

/-- The fields of the stack's section. -/
def stackFields : List (Field StackSettings) :=
  [⟨"id", fun d s => do return { s with id := ← readText d }⟩,
   ⟨"instrument", fun d s => do return { s with instrument := ← readFlag d }⟩]

/-- The fields of the logging's section. -/
def loggingFields (dialect : Dialect) : List (Field LoggingSettings) :=
  [⟨"enabled", fun d s => do return { s with enabled := ← readFlag d }⟩,
   ⟨"level", fun d s => do return { s with level := ← readText d }⟩,
   ⟨"format", fun d s => do return { s with format := ← readFormat dialect d }⟩,
   ⟨"ansi_enabled", fun d s => do return { s with ansiEnabled := ← readFlag d }⟩,
   ⟨"include_location", fun d s => do return { s with includeLocation := ← readFlag d }⟩]

/-- The sections. -/
def sections (dialect : Dialect) : List (Field Settings) :=
  [⟨"stack", fun d s => do
      return { s with stack := ← readSection dialect "StackConfig" stackFields {} d }⟩,
   ⟨"logging", fun d s => do
      return { s with
        logging := ← readSection dialect "LoggingConfig" (loggingFields dialect) {} d }⟩]

/-- Takes settings from a document, behind which nothing may follow. -/
def decode (dialect : Dialect) (doc : Document) : Except Flaw Settings := do
  let s ← readSection dialect "StrataConfig" (sections dialect) {} doc.root
  if doc.clean then .ok s else .error .syntaxError

end OpStack.Settings
