import OpStack.Document.Json

/-!
# OpStack.Document.Toml.Quoted

The texts of TOML: in double quotation marks with escapes, or in single ones as
they are; on one line, or in three marks on several.
-/

namespace OpStack.Document.Toml

open Json (hexValue?)

/-- Controls other than the tab stand in no text. -/
def isPrintable (c : Char) : Bool := c = '\t' || (' ' ≤ c && c ≠ '\x7f')

/-- Blanks within a line. -/
def isBlank (c : Char) : Bool := c = ' ' || c = '\t'

/-- The character of a short escape. -/
def escaped? (c : Char) : Option Char :=
  if c = '"' || c = '\\' then some c
  else if c = 'b' then some '\x08'
  else if c = 't' then some '\t'
  else if c = 'n' then some '\n'
  else if c = 'f' then some '\x0c'
  else if c = 'r' then some '\r'
  else none

/-- The character with the code point that the digits give. -/
def codePoint? (ds : List Char) : Option Char := do
  let n ← ds.foldlM (fun n c => do return 16 * n + (← hexValue? c)) 0
  if n < 0xd800 || (0xe000 ≤ n && n < 0x110000) then some (Char.ofNat n) else none

/-- What was read of a text, and what is behind it. -/
abbrev Read := Option (List Char × List Char)

/-- Puts a character in front of what was read. -/
def Read.cons (c : Char) (r : Read) : Read := r.map fun r => (c :: r.1, r.2)

/-- A text with escapes, up to its closing mark. -/
def basicBody : List Char → Read
  | [] => none
  | '"' :: cs => some ([], cs)
  | '\\' :: 'u' :: a :: b :: c :: d :: cs =>
    match codePoint? [a, b, c, d] with
    | some x => (basicBody cs).cons x
    | none => none
  | '\\' :: 'U' :: a :: b :: c :: d :: e :: f :: g :: h :: cs =>
    match codePoint? [a, b, c, d, e, f, g, h] with
    | some x => (basicBody cs).cons x
    | none => none
  | '\\' :: e :: cs =>
    match escaped? e with
    | some x => (basicBody cs).cons x
    | none => none
  | c :: cs => if isPrintable c then (basicBody cs).cons c else none

/-- A text without escapes, up to its closing mark. -/
def literalBody : List Char → Read
  | [] => none
  | '\'' :: cs => some ([], cs)
  | c :: cs => if isPrintable c then (literalBody cs).cons c else none

/-- What a backslash at the end of a line does. -/
inductive Gap where
  /-- There was none. -/
  | no
  /-- There was one, and the end of the line must come. -/
  | line
  /-- Blanks and line ends up to the next character do not count. -/
  | skip
  deriving DecidableEq, Repr

/-- A text of several lines with escapes, up to its closing marks; up to two more marks
in front of these belong to the text. -/
def basicBlock (gap : Gap) : List Char → Read
  | [] => none
  | '\r' :: '\n' :: cs =>
    if gap = .no then (basicBlock .no cs).cons '\n' else basicBlock .skip cs
  | '\n' :: cs => if gap = .no then (basicBlock .no cs).cons '\n' else basicBlock .skip cs
  | ' ' :: cs => if gap = .no then (basicBlock .no cs).cons ' ' else basicBlock gap cs
  | '\t' :: cs => if gap = .no then (basicBlock .no cs).cons '\t' else basicBlock gap cs
  | '"' :: '"' :: '"' :: '"' :: '"' :: cs => if gap = .line then none else some (['"', '"'], cs)
  | '"' :: '"' :: '"' :: '"' :: cs => if gap = .line then none else some (['"'], cs)
  | '"' :: '"' :: '"' :: cs => if gap = .line then none else some ([], cs)
  | '\\' :: 'u' :: a :: b :: c :: d :: cs =>
    match gap, codePoint? [a, b, c, d] with
    | .line, _ | _, none => none
    | _, some x => (basicBlock .no cs).cons x
  | '\\' :: 'U' :: a :: b :: c :: d :: e :: f :: g :: h :: cs =>
    match gap, codePoint? [a, b, c, d, e, f, g, h] with
    | .line, _ | _, none => none
    | _, some x => (basicBlock .no cs).cons x
  | '\\' :: e :: cs =>
    if gap = .line then none
    else match escaped? e with
      | some x => (basicBlock .no cs).cons x
      | none =>
        if e = '\n' then basicBlock .skip cs
        else if isBlank e then basicBlock .line cs
        else if e = '\r' then
          match cs with
          | '\n' :: cs => basicBlock .skip cs
          | _ => none
        else none
  | c :: cs =>
    if gap = .line || !isPrintable c then none else (basicBlock .no cs).cons c

/-- A text of several lines without escapes, up to its closing marks. -/
def literalBlock : List Char → Read
  | [] => none
  | '\r' :: '\n' :: cs => (literalBlock cs).cons '\n'
  | '\'' :: '\'' :: '\'' :: '\'' :: '\'' :: cs => some (['\'', '\''], cs)
  | '\'' :: '\'' :: '\'' :: '\'' :: cs => some (['\''], cs)
  | '\'' :: '\'' :: '\'' :: cs => some ([], cs)
  | c :: cs => if c = '\n' || isPrintable c then (literalBlock cs).cons c else none

/-- A line end right behind opening marks does not count. -/
def afterOpening : List Char → List Char
  | '\n' :: cs => cs
  | '\r' :: '\n' :: cs => cs
  | cs => cs

/-- A text on one line. -/
def line? : List Char → Read
  | '"' :: cs => basicBody cs
  | '\'' :: cs => literalBody cs
  | _ => none

/-- A text on one line or on several. -/
def quoted? : List Char → Read
  | '"' :: '"' :: '"' :: cs => basicBlock .no (afterOpening cs)
  | '\'' :: '\'' :: '\'' :: cs => literalBlock (afterOpening cs)
  | cs => line? cs

end OpStack.Document.Toml
