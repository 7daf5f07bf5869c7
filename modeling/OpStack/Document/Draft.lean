import OpStack.Text.Quoted

/-!
# OpStack.Document.Draft

A document as far as it could be read.  Where its syntax fails a draft has the mark
`broken`, and nothing behind that place is in it.  Whoever takes a draft apart in
the order of the document therefore meets the first problem first, be it one of
syntax or one of shape.
-/

namespace OpStack.Document

/-- A value of a document, possibly broken off. -/
inductive Draft where
  | broken
  | null
  | flag (b : Bool)
  | integer (n : Int)
  /-- A number with a fraction or an exponent, by its text in messages. -/
  | decimal (shown : String)
  | text (s : String)
  /-- A date or a time. -/
  | moment
  | list (items : List Draft)
  /-- Members in the order of the document; the names of a sound table are texts. -/
  | table (members : List (Draft × Draft))

/-- The kind of value in messages, with the value if it is a small one. -/
def Draft.description? : Draft → Option String
  | broken => none
  | null => some "null"
  | flag true => some "boolean `true`"
  | flag false => some "boolean `false`"
  | integer n => some ("integer `" ++ toString n ++ "`")
  | decimal shown => some ("floating point `" ++ shown ++ "`")
  | .text s => some ("string " ++ Text.quote s)
  | list _ => some "sequence"
  | moment | table _ => some "map"

/-- How a well-formed document does not fit. -/
inductive Misfit where
  | unknownField (name : String) (known : List String)
  | duplicateField (name : String)
  | unknownVariant (name : String) (known : List String)
  | invalidType (found expected : String)
  /-- A choice is neither a text nor a table. -/
  | noChoice
  /-- A choice is a table without members, or with several. -/
  | choiceCount (several : Bool)
  /-- A choice has something in it that should be empty. -/
  | choiceNotEmpty
  /-- A choice has a plain value in it. -/
  | choiceNoTable (found : String)
  deriving DecidableEq, Repr

/-- Names to choose from. -/
def oneOf : List String → String
  | [] => "nothing"
  | [a] => "`" ++ a ++ "`"
  | [a, b] => "`" ++ a ++ "` or `" ++ b ++ "`"
  | names => "one of " ++ ", ".intercalate (names.map fun n => "`" ++ n ++ "`")

/-- The text of a misfit. -/
def Misfit.message : Misfit → String
  | unknownField name known => "unknown field `" ++ name ++ "`, expected " ++ oneOf known
  | duplicateField name => "duplicate field `" ++ name ++ "`"
  | unknownVariant name known => "unknown variant `" ++ name ++ "`, expected " ++ oneOf known
  | invalidType found expected => "invalid type: " ++ found ++ ", expected " ++ expected
  | noChoice => "wanted string or table"
  | choiceCount false => "wanted exactly 1 element, found 0 elements"
  | choiceCount true => "wanted exactly 1 element, more than 1 element"
  | choiceNotEmpty => "expected empty table"
  | choiceNoTable found => "expected table, found " ++ found

/-- Why a document was not taken. -/
inductive Flaw where
  | syntaxError
  | misfit (m : Misfit)
  deriving DecidableEq, Repr

/-- The fault of a value that is not of the type expected. -/
def Draft.mistyped (d : Draft) (expected : String) : Flaw :=
  match d.description? with
  | some found => .misfit (.invalidType found expected)
  | none => .syntaxError

end OpStack.Document

namespace OpStack

/-- A document: its value, and whether nothing is behind it. -/
structure Document where
  root : Document.Draft
  clean : Bool

end OpStack
