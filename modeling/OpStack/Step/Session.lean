import OpStack.Invocation
import OpStack.Step.Op

/-!
# OpStack.Step.Session

A stand-alone step that is set up, read and invoked in turns.  The middleware that
was taken out last is kept and can be added again.
-/

namespace OpStack.Step

variable [Payloads]

/-- A step with the middleware taken out last, and the state of its invocations. -/
structure Session (k : StepId) where
  step : Step k
  spare : Option (Middleware k.Input k.Output) := none
  world : World := {}

namespace Session

/-- An operation of a session. -/
inductive Op (k : StepId) where
  | on (op : Step.Op k)
  /-- Adds the middleware taken out last. -/
  | readd (position : Position)
  | invoke (v : Payload) (terminal : Terminal) (start : Start)

/-- What an operation tells the caller. -/
inductive Reply where
  /-- The answer of the step, with the identifiers of its middleware afterwards. -/
  | of (reply : Step.Reply) (list : List String)
  /-- No middleware was taken out yet. -/
  | nothing (list : List String)
  | outcome (o : Outcome)

variable {k : StepId}

def performOn (s : Session k) (op : Step.Op k) : Reply × Session k :=
  let p := op.perform s.step
  (.of p.reply p.step.list,
    { step := p.step
      spare := p.removed.or s.spare
      world := p.events.foldl (fun w e => w.tell (.registry e)) s.world })

def perform (s : Session k) : Op k → Reply × Session k
  | .on op => s.performOn op
  | .readd position =>
    match s.spare with
    | some m => s.performOn (.add m position)
    | none => (.nothing s.step.list, s)
  | .invoke v terminal start =>
    let one := invocation (s.step.wrap terminal.handler) start v s.world
    (.outcome one.1, { s with world := one.2 })

def run (s : Session k) : List (Op k) → List Reply × Session k
  | [] => ([], s)
  | op :: ops =>
    let one := s.perform op
    let others := one.2.run ops
    (one.1 :: others.1, others.2)

end Session

end OpStack.Step
