import OpStack.Environment.Lines
import OpStack.Environment.Value
import OpStack.Text.Utf8

/-!
# OpStack.Environment.File

Files that set variables, one to a line: a name, a sign of equality and a value.
Such a file does not change what is set already, so that of two lines for a name
the first counts.
-/

namespace OpStack.Environment

/-- What a line says. -/
inductive Assignment where
  /-- The line is empty or a comment. -/
  | nothing
  | value (name value : String)
  deriving DecidableEq, Repr

namespace Assignment

/-- A character that a name begins with. -/
def isNameStart (c : Char) : Bool := c.isAlpha || c = '_'

/-- A character of a name. -/
def isNameChar (c : Char) : Bool := c.isAlphanum || c = '_' || c = '.'

/-- What is behind white space. -/
def skipBlanks (cs : List Char) : List Char := cs.dropWhile Text.isBlank

/-- The name at the beginning, and what is behind it and white space. -/
def name? (cs : List Char) : Option (String × List Char) :=
  if cs.head?.any isNameStart then
    some (String.ofList (cs.takeWhile isNameChar), skipBlanks (cs.dropWhile isNameChar))
  else none

/-- What is behind the sign of equality at the beginning. -/
def behindEquals? : List Char → Option (List Char)
  | '=' :: cs => some (skipBlanks cs)
  | _ => none

/-- The name that a line is about, and what is behind the sign of equality.  The word
`export` may stand in front; alone it is a name like others. -/
def target? (cs : List Char) : Option (String × List Char) := do
  let (name, rest) ← name? cs
  match behindEquals? rest with
  | some rest => return (name, rest)
  | none =>
    if name = "export" then
      let (name, rest) ← name? rest
      return (name, ← behindEquals? rest)
    else none

/-- Reads a line, which must say something sound; `lookup` gives the values of variables. -/
def ofLine? (lookup : String → String) (line : List Char) : Option Assignment :=
  match Text.trim line with
  | [] => some nothing
  | '#' :: _ => some nothing
  | cs => do
    match ← target? cs with
    | (name, []) => return value name ""
    | (name, '#' :: _) => return value name ""
    | (name, cs) => return value name (← Value.read? lookup cs)

end Assignment

/-- Sets the variables of the lines.  A variable in a value has the value that is set,
or else that of the last line about it, which `said` gives. -/
def loadLines (env said : Environment) : List (List Char) → Option Environment
  | [] => some env
  | line :: rest => do
    let lookup (name : String) : String := ((env.get? name).or (said.get? name)).getD ""
    match ← Assignment.ofLine? lookup line with
    | .nothing => loadLines env said rest
    | .value name value => loadLines (env.define name value) ((name, value) :: said) rest

/-- Sets the variables of a file, of which every byte and every line has to be sound. -/
def loadFile? (env : Environment) (content : List UInt8) : Option Environment :=
  match Text.ofUtf8 content with
  | .error _ => none
  | .ok text => do
    let cs := match text.toList with
      | '\ufeff' :: cs => cs
      | cs => cs
    loadLines env [] (← lines true .plain [] cs)

end OpStack.Environment
