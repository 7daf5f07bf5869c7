import OpStack.Stack.Basic
import OpStack.Step.Session

/-!
# OpStack.Stack.Session

A stack that is set up, read and invoked in turns.  Trace and request counts go on
from one operation to the next.  An invocation brings a context of its own, or
goes on with the one that the session keeps.
-/

namespace OpStack.Stack

variable [Payloads]

/-- A stack with the middleware taken out last, the context that is kept, and the
state of the invocations. -/
structure Session where
  stack : Stack
  spare : Option ((k : StepId) × Middleware k.Input k.Output) := none
  shared : Start := {}
  world : World := {}

namespace Session

/-- An operation of a session. -/
inductive Op where
  | on (k : StepId) (op : Step.Op k)
  /-- Adds the middleware taken out last, if it was taken out of this step. -/
  | readd (k : StepId) (position : Position)
  | list
  | stepList (k : StepId)
  | display
  | debug
  | debugPretty
  | ids
  | setInstrument (wanted : Bool)
  /-- One invocation, with the context that the session keeps if none is given. -/
  | invoke (v : Payload) (terminal : Terminal) (start : Option Start)
  /-- One handler inside the stack, called once per payload. -/
  | decorate (vs : List Payload) (terminal : Terminal)

/-- What an operation tells the caller. -/
inductive Reply where
  /-- The answer of a step, with the identifiers of its middleware afterwards. -/
  | of (reply : Step.Reply) (list : List String)
  /-- The middleware taken out last is none of this step's. -/
  | nothing (list : List String)
  | done
  | texts (ss : List String)
  | text (s : String)
  | outcome (o : Outcome)
  | runs (os : List Outcome)

/-- Performs an operation on one step. -/
def performOn (s : Session) (k : StepId) (op : Step.Op k) : Reply × Session :=
  let p := op.perform (s.stack.step k)
  (.of p.reply p.step.list,
    { s with
      stack := s.stack.withStep k p.step
      spare := (p.removed.map (⟨k, ·⟩)).or s.spare
      world := p.events.foldl (fun w e => w.tell (.registry e)) s.world })

/-- The middleware taken out last, if it fits the step. -/
def spareFor (s : Session) (k : StepId) : Option (Middleware k.Input k.Output) :=
  match s.spare with
  | some ⟨j, m⟩ => if h : j = k then some (h ▸ m) else none
  | none => none

/-- Performs an operation of the session. -/
def perform (s : Session) : Op → Reply × Session
  | .on k op => s.performOn k op
  | .readd k position =>
    match s.spareFor k with
    | some m => s.performOn k (.add m position)
    | none => (.nothing (s.stack.step k).list, s)
  | .list => (.texts s.stack.list, s)
  | .stepList k => (.texts (s.stack.step k).list, s)
  | .display => (.text s.stack.display, s)
  | .debug => (.text s.stack.outline.compact, s)
  | .debugPretty => (.text s.stack.outline.pretty, s)
  | .ids => (.texts [s.stack.id, (Layer.stack s.stack).id], s)
  | .setInstrument wanted => (.done, { s with stack := s.stack.setInstrument wanted })
  | .invoke v terminal (some start) =>
    let one := invocation (s.stack.invoke terminal.handler) start v s.world
    (.outcome one.1, { s with world := one.2 })
  | .invoke v terminal none =>
    let one := invocation (s.stack.invoke terminal.handler) s.shared v s.world
    (.outcome one.1, { s with world := one.2, shared := one.2.toStart })
  | .decorate vs terminal =>
    let all := eachAfresh (s.stack.decorateHandler terminal.handler) {} vs s.world
    (.runs all.1, { s with world := all.2 })

/-- Performs operations in order. -/
def run (s : Session) : List Op → List Reply × Session
  | [] => ([], s)
  | op :: ops =>
    let one := s.perform op
    let others := one.2.run ops
    (one.1 :: others.1, others.2)

end Session

end OpStack.Stack
