import OpStack.Logging.Filter
import OpStack.Text.Alphanumeric
import OpStack.Text.Blank
import OpStack.Text.Whole

/-!
# OpStack.Logging.Directive

Filters that are written as directives between commas:

```
info                     a level for everything
client=debug             a level for all targets that begin so
client                   every level for such targets
client[span{field}]=info the same, inside certain spans only
```

A directive is read by a small machine over the characters of its trimmed text.
The parts it keeps are cut out of the untrimmed text at the places counted in the
trimmed one, so blanks in front of a directive shift every cut.  What a field must match is not
looked at.
-/

namespace OpStack.Logging

/-! ## Directives -/

/-- What a directive says: which levels pass (those of at most this rank), for
which targets, and whether only inside certain spans. -/
structure Directive where
  threshold : Nat
  /-- The beginning of the targets, if not all are meant. -/
  target : Option (List Char) := none
  inSpans : Bool := false
  deriving DecidableEq, Repr

/-- Why a text is no filter. -/
inductive DirectiveFault where
  | directive
  | level
  deriving DecidableEq, Repr

/-- The text of a fault. -/
def DirectiveFault.message : DirectiveFault → String
  | directive => "invalid filter directive"
  | level =>
    "error parsing level filter: expected one of \"off\", \"error\", \"warn\", \"info\", \"debug\", \"trace\", or a number 0-5"

/-- The rank of the level trace: everything passes. -/
def everything : Nat := Level.trace.rank

/-- The words for the levels, by rank. -/
def levelWords : List (List Char) :=
  ["off", "error", "warn", "info", "debug", "trace"].map String.toList

/-- The rank that a text names, by a number from 0 to 5 or by a word in any case. -/
def rank? (cs : List Char) : Option Nat :=
  match Text.readWhole UInt64.size cs with
  | .ok n => if n ≤ everything then some n else none
  | .error _ => levelWords.idxOf? (cs.map Char.toLower)

/-! ## Reading a directive -/

/-- The characters of `cs` behind its first `n` bytes, if these are whole characters. -/
def dropBytes : Nat → List Char → Option (List Char)
  | 0, cs => some cs
  | _ + 1, [] => none
  | n + 1, c :: cs => if c.utf8Size ≤ n + 1 then dropBytes (n + 1 - c.utf8Size) cs else none
termination_by structural _ cs => cs

/-- The first characters of `cs`, as many as fill `n` bytes. -/
def takeBytes : Nat → List Char → Option (List Char)
  | 0, _ => some []
  | _ + 1, [] => none
  | n + 1, c :: cs =>
    if c.utf8Size ≤ n + 1 then (takeBytes (n + 1 - c.utf8Size) cs).map (c :: ·) else none
termination_by structural _ cs => cs

/-- The characters of `cs` between two byte positions. -/
def cut (cs : List Char) (first last : Nat) : Option (List Char) :=
  (dropBytes first cs).bind (takeBytes (last - first))

/-- Where the reading of a directive stands; places are counted in bytes. -/
inductive Mode where
  | start
  | name (first : Nat)
  | span
  | field (first : Nat)
  | fields
  | target
  | level (first : Nat)
  deriving DecidableEq, Repr

/-- The state of reading a directive. -/
structure Reading where
  mode : Mode := .start
  target : Option (List Char) := none
  inSpans : Bool := false
  deriving DecidableEq, Repr

/-- A character that a target can begin with. -/
def startsTarget (c : Char) : Bool := c = '-' || c = ':' || c = '_' || Text.isAlphanumeric c

/-- Reads the character `c` at byte `i` of the trimmed text of `piece`. -/
def Reading.step (piece : List Char) (r : Reading) (i : Nat) (c : Char) : Option Reading :=
  match r.mode with
  | .start =>
    if c = '[' then some { r with mode := .span }
    else if startsTarget c then some { r with mode := .name i }
    else none
  | .name first =>
    if c = '=' then
      (cut piece first i).map fun t => { r with mode := .level (i + 1), target := some t }
    else if c = '[' then
      (cut piece first i).map fun t => { r with mode := .span, target := some t }
    else some r
  | .span =>
    if c = ']' then some { r with mode := .target, inSpans := true }
    else if c = '{' then some { r with mode := .field (i + 1) }
    else some r
  | .field first =>
    if c = '}' then
      if first = i then none else some { r with mode := .fields, inSpans := true }
    else some r
  | .fields => if c = ']' then some { r with mode := .target } else none
  | .target => if c = '=' then some { r with mode := .level (i + 1) } else none
  | .level _ => some r

/-- Reads characters from byte `i` on. -/
def Reading.go (piece : List Char) (r : Reading) (i : Nat) : List Char → Option Reading
  | [] => some r
  | c :: cs =>
    match r.step piece i c with
    | some r => r.go piece (i + c.utf8Size) cs
    | none => none

/-- The directive that was read.  A name alone is a level if it is one. -/
def Reading.finish (piece : List Char) (r : Reading) : Except DirectiveFault Directive :=
  match r.mode with
  | .name first =>
    match dropBytes first piece with
    | none => .error .directive
    | some word =>
      match rank? word with
      | some threshold => .ok { threshold }
      | none => .ok { threshold := everything, target := some word }
  | .level first =>
    match dropBytes first piece with
    | none => .error .directive
    | some [] => .ok ⟨everything, r.target, r.inSpans⟩
    | some word =>
      match rank? word with
      | some threshold => .ok ⟨threshold, r.target, r.inSpans⟩
      | none => .error .level
  | .target => .ok ⟨everything, r.target, r.inSpans⟩
  | _ => .error .directive

/-- The directive that a text spells. -/
def Directive.parse (piece : List Char) : Except DirectiveFault Directive :=
  match Reading.go piece {} 0 (Text.trim piece) with
  | some r => r.finish piece
  | none => .error .directive

/-! ## Filters -/

/-- The directives of a filter. -/
structure Directives where
  directives : List Directive
  deriving DecidableEq, Repr

/-- The texts between commas. -/
def pieces : List Char → List (List Char)
  | [] => [[]]
  | c :: cs =>
    if c = ',' then [] :: pieces cs
    else match pieces cs with
      | p :: ps => (c :: p) :: ps
      | [] => [[c]]

/-- The filter that a text spells.  Empty directives are skipped; without any, the
level is error. -/
def Directives.parse (text : String) : Except DirectiveFault Directives := do
  let directives ← ((pieces text.toList).filter (!·.isEmpty)).mapM Directive.parse
  return ⟨if directives.isEmpty then [{ threshold := Level.error.rank }] else directives⟩

namespace Directive

/-- The directive speaks of the target. -/
def covers (d : Directive) (target : String) : Bool :=
  !d.inSpans && d.target.all (·.isPrefixOf target.toList)

/-- How much of a target the directive names. -/
def specificity (d : Directive) : Nat :=
  match d.target with
  | none => 0
  | some t => t.length + 1

end Directive

/-- The directive that decides about a target: the most specific one that covers it,
and of equally specific ones the last. -/
def Directives.decisive (f : Directives) (target : String) : Option Directive :=
  f.directives.foldl
    (fun best d =>
      if d.covers target && best.all (·.specificity ≤ d.specificity) then some d else best)
    none

/-- Says whether a record of the target and level passes; without a directive that
covers the target it does not. -/
def Directives.passes (f : Directives) (target : String) (level : Level) : Bool :=
  (f.decisive target).any (level.rank ≤ ·.threshold)

/-- Filters are read as directives. -/
instance : FilterReader where
  Filter := Directives
  read text := (Directives.parse text).mapError DirectiveFault.message

end OpStack.Logging
