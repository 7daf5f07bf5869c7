import OpStack.Document.Toml.Quoted
import OpStack.Document.Toml.Scalar
import OpStack.Document.Toml.Tree

/-!
# OpStack.Document.Toml

Reads TOML 1.0.  A text that is not TOML has no value at all, so its shape is never
looked at.  Lists and tables inside each other have a limit, and so do dotted names.
-/

namespace OpStack.Document.Toml

/-- So many lists and tables can be inside each other, and so many names be dotted. -/
def nestingLimit : Nat := 79

/-! ## Blanks, comments and lines -/

/-- What is behind blanks. -/
def skipBlanks (cs : List Char) : List Char := cs.dropWhile isBlank

/-- What is behind blanks, line ends and comments. -/
def skipLines (inComment : Bool) : List Char → Option (List Char)
  | [] => some []
  | '\r' :: '\n' :: cs => skipLines false cs
  | '\n' :: cs => skipLines false cs
  | c :: cs =>
    if inComment then if isPrintable c then skipLines true cs else none
    else if isBlank c then skipLines false cs
    else if c = '#' then skipLines true cs
    else some (c :: cs)

/-- What is behind the end of a line, at which there may be blanks and a comment. -/
def endLine (cs : List Char) : Option (List Char) :=
  let behind := match skipBlanks cs with
    | '#' :: cs => cs.dropWhile isPrintable
    | cs => cs
  match behind with
  | [] => some []
  | '\n' :: cs => some cs
  | '\r' :: '\n' :: cs => some cs
  | _ => none

/-! ## Names -/

/-- The characters of a name without quotation marks. -/
def isNameChar (c : Char) : Bool := c.isAlphanum || c = '_' || c = '-'

/-- A name without dots. -/
def name? (cs : List Char) : Option (String × List Char) :=
  match line? cs with
  | some (s, rest) => some (String.ofList s, rest)
  | none =>
    let s := cs.takeWhile isNameChar
    if s.isEmpty then none else some (String.ofList s, cs.dropWhile isNameChar)

/-- A name, and the names dotted in front of it; at most `n` in all. -/
def names? (n : Nat) (cs : List Char) : Option ((List String × String) × List Char) :=
  match n with
  | 0 => none
  | n + 1 => do
    let (s, rest) ← name? (skipBlanks cs)
    match skipBlanks rest with
    | '.' :: rest => do
      let ((path, last), rest) ← names? n rest
      return ((s :: path, last), rest)
    | rest => return (([], s), rest)

/-! ## Values -/

/-- A value that is a text or a word. -/
def plain? (cs : List Char) : Option (Draft × List Char) :=
  match quoted? cs with
  | some (s, rest) => some (.text (String.ofList s), rest)
  | none =>
    let (w, rest) := word cs
    (scalar? w).map (·, rest)

section Nested

variable (value? : List Char → Option (Draft × List Char))

/-- A value behind its name and a sign of equality. -/
def member? (cs : List Char) : Option ((List String × String) × Draft × List Char) := do
  let (name, rest) ← names? nestingLimit cs
  match rest with
  | '=' :: rest => return (name, ← value? (skipBlanks rest))
  | _ => none

/-- The values of a list up to its closing bracket; at most `n`. -/
def items? (n : Nat) (cs : List Char) : Option (List Draft × List Char) :=
  match n with
  | 0 => none
  | n + 1 => do
    match ← skipLines false cs with
    | ']' :: rest => return ([], rest)
    | cs => do
      let (d, rest) ← value? cs
      match ← skipLines false rest with
      | ']' :: rest => return ([d], rest)
      | ',' :: rest => do
        let (ds, rest) ← items? n rest
        return (d :: ds, rest)
      | _ => none

/-- The members of a table on one line up to its closing brace; at most `n`. -/
def members? (n : Nat) (es : Entries) (cs : List Char) : Option (Entries × List Char) :=
  match n with
  | 0 => none
  | n + 1 => do
    let ((path, name), d, rest) ← member? value? cs
    let es ← es.put path name d
    match skipBlanks rest with
    | '\x7d' :: rest => return (es, rest)
    | ',' :: rest => members? n es rest
    | _ => none

/-- A table on one line, behind its opening brace. -/
def inline? (cs : List Char) : Option (Draft × List Char) := do
  match skipBlanks cs with
  | '\x7d' :: rest => return (.table [], rest)
  | cs => do
    let (es, rest) ← members? value? cs.length [] cs
    return (.table (Entries.members es), rest)

end Nested

/-- A value; so many lists and tables can be inside each other. -/
def value? (depth : Nat) (cs : List Char) : Option (Draft × List Char) :=
  match depth, cs with
  | 0, '[' :: _ => none
  | 0, '\x7b' :: _ => none
  | depth + 1, '[' :: cs => (items? (value? depth) cs.length cs).map fun r => (.list r.1, r.2)
  | depth + 1, '\x7b' :: cs => inline? (value? depth) cs
  | _, cs => plain? cs

/-! ## Documents -/

/-- What a header says, behind its opening brackets. -/
def header? (isRow : Bool) (cs : List Char) : Option (Header × List Char) := do
  let ((path, name), rest) ← names? nestingLimit cs
  match isRow, rest with
  | true, ']' :: ']' :: rest => return (⟨path, name, true⟩, rest)
  | false, ']' :: rest => return (⟨path, name, false⟩, rest)
  | _, _ => none

/-- One header or one value with its name. -/
def entry? (t : Tree) (cs : List Char) : Option (Tree × List Char) :=
  match cs with
  | '[' :: '[' :: cs => do
    let (h, rest) ← header? true cs
    return (← t.goTo h, rest)
  | '[' :: cs => do
    let (h, rest) ← header? false cs
    return (← t.goTo h, rest)
  | cs => do
    let ((path, name), d, rest) ← member? (value? nestingLimit) cs
    return (← t.put path name d, rest)

/-- The headers and values up to the end of the text; at most `n`. -/
def entries? (n : Nat) (t : Tree) (cs : List Char) : Option Tree :=
  match n with
  | 0 => none
  | n + 1 => do
    match ← skipLines false cs with
    | [] => return t
    | cs => do
      let (t, rest) ← entry? t cs
      entries? n t (← endLine rest)

/-- Leaves out the mark that may stand in front of a text. -/
def withoutMark : List Char → List Char
  | '\ufeff' :: cs => cs
  | cs => cs

/-- The value of a text. -/
def read? (s : String) : Option Draft := do
  let cs := withoutMark s.toList
  let t ← entries? (cs.length + 1) {} cs
  t.draft?

/-- Reads a text. -/
def read (s : String) : Document := ⟨(read? s).getD .broken, true⟩

end OpStack.Document.Toml
