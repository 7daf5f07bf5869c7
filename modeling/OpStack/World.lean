import OpStack.Context.Basic
import OpStack.Trace

/-!
# OpStack.World

The state that is threaded through the calls of an invocation: the contexts with their
cancellation flags, the log of the middleware, the trace with the active spans, and how many
requests each source has made.  Nothing of it is rolled back when a call fails.

An invocation starts with one context.  A middleware can make further ones and hand one of
them on in place of its own, so contexts go by number, and one of them is at hand: the one
that whoever runs was given.
-/

namespace OpStack

variable [Payloads]

/-! ## Contexts by number -/

/-- The contexts that were made so far, and the flags that they share. -/
structure Memory where
  /-- The contexts by number; a number that none was made for stands for an empty one. -/
  contexts : Nat → Context := fun _ => {}
  /-- How many contexts were made; the next one takes this number. -/
  made : Nat := 1
  flags : Flags := ∅
  /-- How many flags were given out; the next one takes this number. -/
  families : Nat := 1

namespace Memory

/-- Changes the context with the number. -/
def alter (x : Memory) (i : Nat) (f : Context → Context) : Memory :=
  { x with contexts := fun j => if j = i then f (x.contexts i) else x.contexts j }

/-- Takes in a further context. -/
def add (x : Memory) (c : Context) : Memory :=
  { x with
    contexts := fun j => if j = x.made then c else x.contexts j
    made := x.made + 1 }

/-- Takes in a context with a flag of its own. -/
def addFresh (x : Memory) : Memory :=
  { x.add { flag := x.families } with families := x.families + 1 }

/-- Puts two contexts in the place of each other. -/
def exchange (x : Memory) (i j : Nat) : Memory :=
  { x with
    contexts := fun n =>
      if n = i then x.contexts j else if n = j then x.contexts i else x.contexts n }

/-- Raises the flag of the context with the number. -/
def cancel (x : Memory) (i : Nat) : Memory :=
  { x with flags := x.flags.raise (x.contexts i).flag }

end Memory

/-- What an invocation starts with: the contexts there are, and which one is at hand. -/
structure Start extends Memory where
  hand : Nat := 0

def Start.context (s : Start) : Context := s.contexts s.hand

/-! ## The state of an invocation -/

/-- What a log entry says. -/
inductive Datum where
  | null
  | flag (b : Bool)
  | number (n : Int)
  | text (s : String)
  | list (items : List Datum)
  | fields (fields : List (String × Datum))
  /-- A payload, type and content. -/
  | payload (v : Payload)
  /-- The content of a payload alone. -/
  | content (v : Payload)

/-- An entry of the log: who did what, and what came of it. -/
structure Note where
  author : String
  action : String
  datum : Datum

/-- The state of an invocation. -/
structure World extends Start where
  /-- The log, oldest entry first. -/
  journal : List Note := []
  /-- The trace, oldest record first. -/
  trace : List Record := []
  /-- The active spans, outermost first. -/
  spans : List Span := []
  /-- How many requests the source with the given number has made. -/
  drawn : Nat → Nat := fun _ => 0

namespace World

/-- Tells an event inside the active spans. -/
def tell (w : World) (e : Event) : World :=
  { w with trace := w.trace ++ [.event e w.spans] }

/-- Opens a span inside the active ones. -/
def openSpan (w : World) (s : Span) : World :=
  { w with trace := w.trace ++ [.opened s w.spans], spans := w.spans ++ [s] }

/-- Closes the innermost span, which is `s`. -/
def closeSpan (w : World) (s : Span) : World :=
  { w with trace := w.trace ++ [.closed s w.spans.dropLast], spans := w.spans.dropLast }

/-- Has the context with the number at hand, if one is named. -/
def offer (w : World) : Option Nat → World
  | none => w
  | some i => { w with hand := i }

/-- Has the context at hand while `body` runs, if one is named, and the own one again
afterwards. -/
def lend {α : Type} (w : World) (c : Option Nat) (body : World → α × World) : α × World :=
  let done := body (w.offer c)
  (done.1, done.2.offer (c.map fun _ => w.hand))

@[simp] theorem offer_none (w : World) : w.offer none = w := rfl

@[simp] theorem lend_none {α : Type} (w : World) (body : World → α × World) :
    w.lend none body = body w := rfl

@[simp] theorem journal_offer (w : World) (c : Option Nat) : (w.offer c).journal = w.journal := by
  cases c <;> rfl

@[simp] theorem trace_offer (w : World) (c : Option Nat) : (w.offer c).trace = w.trace := by
  cases c <;> rfl

@[simp] theorem spans_offer (w : World) (c : Option Nat) : (w.offer c).spans = w.spans := by
  cases c <;> rfl

@[simp] theorem drawn_offer (w : World) (c : Option Nat) : (w.offer c).drawn = w.drawn := by
  cases c <;> rfl

/-- An event leaves the active spans alone. -/
@[simp] theorem spans_tell (w : World) (e : Event) : (w.tell e).spans = w.spans := rfl

/-- A span that is opened becomes the innermost one. -/
@[simp] theorem spans_openSpan (w : World) (s : Span) : (w.openSpan s).spans = w.spans ++ [s] := rfl

/-- Closing takes the innermost span away. -/
@[simp] theorem spans_closeSpan (w : World) (s : Span) :
    (w.closeSpan s).spans = w.spans.dropLast := rfl

end World

/-- A source of requests: the number it is counted under and the request it makes
when it has made so many before. -/
structure RequestSource where
  key : Nat
  make : Nat → Payload

namespace RequestSource

/-- A source that always makes the same request. -/
def fixed (key : Nat) (request : Payload) : RequestSource := ⟨key, fun _ => request⟩

/-- Makes the next request. -/
def draw (s : RequestSource) (w : World) : Payload × World :=
  (s.make (w.drawn s.key),
    { w with drawn := fun k => if k = s.key then w.drawn k + 1 else w.drawn k })

end RequestSource

end OpStack
