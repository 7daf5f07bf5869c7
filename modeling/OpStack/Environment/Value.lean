import OpStack.Environment.Basic
import OpStack.Text.Alphanumeric

/-!
# OpStack.Environment.Value

The values in a file that sets variables.  Single quotation marks keep everything
as it is; elsewhere `$NAME` stands for a variable, and a backslash takes the
meaning from the character behind it.  Outside quotation marks a blank ends the
value, and only a comment may follow.
-/

namespace OpStack.Environment.Value

/-- Where in a value a character stands. -/
inductive Place where
  | text
  /-- Between single quotation marks. -/
  | single
  /-- Behind a backslash. -/
  | escape
  /-- Inside the name of a variable, of which the characters so far are given, last first. -/
  | name (cs : List Char)
  /-- Inside a name in braces. -/
  | braced (cs : List Char)
  /-- Behind a blank that ended the value. -/
  | ended
  | comment
  deriving DecidableEq, Repr

/-- A value that is being read. -/
structure Reader where
  place : Place := .text
  /-- A double quotation mark is open. -/
  double : Bool := false
  /-- The characters so far, last first. -/
  done : List Char := []
  deriving DecidableEq, Repr

namespace Reader

variable (lookup : String → String)

def push (r : Reader) (c : Char) : Reader := { r with place := .text, done := c :: r.done }

/-- Adds the value of a variable. -/
def expand (r : Reader) (name : List Char) : Reader :=
  { r with
    place := .text
    done := (lookup (String.ofList name.reverse)).toList.reverse ++ r.done }

def goTo (r : Reader) (p : Place) : Reader := { r with place := p }

/-- Reads a character of plain text or between double quotation marks. -/
def stepText (r : Reader) (c : Char) : Reader :=
  if c = '$' then r.goTo (.name [])
  else if c = '\\' then r.goTo .escape
  else if c = '"' then { r with double := !r.double }
  else if r.double then r.push c
  else if c = '\'' then r.goTo .single
  else if c = ' ' || c = '\t' then r.goTo .ended
  else r.push c

/-- Reads a character behind a dollar sign. -/
def stepName (r : Reader) (cs : List Char) (c : Char) : Reader :=
  if Text.isAlphanumeric c then r.goTo (.name (c :: cs))
  else if c = '\x7b' && cs.isEmpty then r.goTo (.braced [])
  else if c = '$' then (r.expand lookup cs).goTo (.name [])
  else (r.expand lookup cs).push c

/-- Reads a character; `lookup` gives the values of variables. -/
def step (r : Reader) (c : Char) : Option Reader :=
  match r.place with
  | .text => some (r.stepText c)
  | .single => some (if c = '\'' then r.goTo .text else (r.push c).goTo .single)
  | .escape =>
    if c = '\\' || c = '\'' || c = '"' || c = '$' || c = ' ' then some (r.push c)
    else if c = 'n' then some (r.push '\n')
    else none
  | .name cs => some (r.stepName lookup cs c)
  | .braced cs => some (if c = '\x7d' then r.expand lookup cs else r.goTo (.braced (c :: cs)))
  | .ended =>
    if c = ' ' || c = '\t' then some r
    else if c = '#' then some (r.goTo .comment)
    else none
  | .comment => some r

/-- The value when the line ends; there is none if something is still open. -/
def finish (r : Reader) : Option String :=
  if r.double then none
  else match r.place with
    | .single | .braced _ => none
    | .name cs => some (String.ofList (r.expand lookup cs).done.reverse)
    | .text | .escape | .ended | .comment => some (String.ofList r.done.reverse)

end Reader

/-- The value that the characters spell. -/
def read? (lookup : String → String) (cs : List Char) : Option String := do
  let r ← cs.foldlM (Reader.step lookup) {}
  r.finish lookup

end OpStack.Environment.Value
