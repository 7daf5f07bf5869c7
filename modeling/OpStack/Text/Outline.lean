import OpStack.Text.Quoted

/-!
# OpStack.Text.Outline

The developer's text of a value: a tree of named records, wrappers and lists
over words and quoted texts, written on one line (`compact`) or with one item to
a line and four blanks of indentation a level (`pretty`).
-/

namespace OpStack.Text

/-- What a developer's text says of a value. -/
inductive Outline where
  /-- A word that is written as it is. -/
  | word (s : String)
  /-- A text, written in quotation marks. -/
  | quoted (s : String)
  /-- A field of a record. -/
  | field (label : String) (value : Outline)
  /-- A named record of fields. -/
  | record (name : String) (fields : List Outline)
  /-- A named wrapper around one value. -/
  | wrap (name : String) (inside : Outline)
  /-- A list of values. -/
  | list (items : List Outline)

namespace Outline

mutual

/-- The text on one line. -/
def compact : Outline → String
  | word s => s
  | quoted s => quote s
  | field label value => label ++ ": " ++ value.compact
  | record name fields => name ++ " \x7b " ++ ", ".intercalate (compactAll fields) ++ " \x7d"
  | wrap name inside => name ++ "(" ++ inside.compact ++ ")"
  | list items => "[" ++ ", ".intercalate (compactAll items) ++ "]"

/-- The texts of several values, each on one line. -/
def compactAll : List Outline → List String
  | [] => []
  | x :: xs => x.compact :: compactAll xs

end

/-- The blanks in front of a line at the given depth. -/
def indent (depth : Nat) : String := String.ofList (List.replicate (4 * depth) ' ')

mutual

/-- The text with one item to a line, for a value that starts at `depth`. -/
def prettyAt (depth : Nat) : Outline → String
  | word s => s
  | quoted s => quote s
  | field label value => label ++ ": " ++ value.prettyAt depth
  | record name fields =>
    name ++ " \x7b\n" ++ prettyLines (depth + 1) fields ++ indent depth ++ "\x7d"
  | wrap name inside =>
    name ++ "(\n" ++ indent (depth + 1) ++ inside.prettyAt (depth + 1) ++ ",\n"
      ++ indent depth ++ ")"
  | list [] => "[]"
  | list (x :: xs) =>
    "[\n" ++ indent (depth + 1) ++ x.prettyAt (depth + 1) ++ ",\n"
      ++ prettyLines (depth + 1) xs ++ indent depth ++ "]"

/-- One line for each of several values, indented and closed by a comma. -/
def prettyLines (depth : Nat) : List Outline → String
  | [] => ""
  | x :: xs => indent depth ++ x.prettyAt depth ++ ",\n" ++ prettyLines depth xs

end

/-- The text with one item to a line. -/
def pretty (o : Outline) : String := o.prettyAt 0

/-- A list of quoted texts. -/
def texts (ss : List String) : Outline := list (ss.map quoted)

end Outline

end OpStack.Text
