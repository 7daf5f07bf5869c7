import OpStack.Text.Blank

/-!
# OpStack.Environment.Lines

The lines of a file that sets variables.  A line goes on behind its end while a
quotation mark is open, and a comment behind white space is not part of it.  Of
several blanks every second one does not count as white space, so that a comment
behind an even number of blanks is left to whoever reads the value.
-/

namespace OpStack.Environment

/-- Where in a line a character stands. -/
inductive Place where
  | plain
  /-- Behind a blank. -/
  | gap
  /-- Behind a backslash. -/
  | escape
  /-- Between single quotation marks; `escaped` behind a backslash. -/
  | single (escaped : Bool)
  /-- Between double quotation marks; `escaped` behind a backslash. -/
  | double (escaped : Bool)
  | comment
  deriving DecidableEq, Repr

/-- White space inside a line. -/
def isGap (c : Char) : Bool := Text.isBlank c && c ≠ '\n' && c ≠ '\r'

/-- The place behind a character outside quotation marks. -/
def Place.outside (c : Char) : Place :=
  if c = '\\' then escape
  else if c = '"' then double false
  else if c = '\'' then single false
  else plain

/-- The place behind a character.  In the margin, with only white space in front, a
comment can begin anywhere. -/
def Place.next (margin : Bool) (p : Place) (c : Char) : Place :=
  if margin && c = '#' then comment
  else match p with
    | plain => if isGap c then gap else outside c
    | gap => if c = '#' then comment else outside c
    | escape => plain
    | single true => single false
    | single false => if c = '\\' then single true else if c = '\'' then plain else single false
    | double true => double false
    | double false => if c = '\\' then double true else if c = '"' then plain else double false
    | comment => if c = '\n' then plain else comment

/-- The lines of a text; `line` holds the characters of the current one, last first.
There are none if the text ends inside something. -/
def lines (margin : Bool) (p : Place) (line : List Char) : List Char → Option (List (List Char))
  | [] => if p = .plain || p = .comment then some [line.reverse] else none
  | c :: cs =>
    let q := p.next margin c
    if q = .plain && c = '\n' then (lines true .plain [] cs).map (line.reverse :: ·)
    else if q = .comment then lines margin q line cs
    else lines (margin && Text.isBlank c) q (c :: line) cs

end OpStack.Environment
