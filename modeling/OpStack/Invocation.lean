import OpStack.Behaviour

/-!
# OpStack.Invocation

Single invocations of a handler: what they start with, what comes of them, and
what the next one can start with.
-/

namespace OpStack

variable [Payloads]

/-- A single new context with the timeout, the state of its flag and the extensions given. -/
def Start.new (timeout : Option Nat) (cancelled : Bool) (extensions : List Payload) : Start where
  contexts
    | 0 =>
      { deadline := timeout.map .timeout
        extensions := extensions.foldl (·.setValue ·) ∅ }
    | _ => {}
  flags := if cancelled then (∅ : Flags).raise 0 else ∅

/-- What an invocation answers, and what was logged during it. -/
structure Outcome where
  result : Except Fault Payload
  journal : List Note

/-- The state before an invocation: trace and request counts go on, the log is empty. -/
def World.begin (w : World) (s : Start) : World :=
  { w with toStart := s, journal := [] }

/-- Calls the handler once. -/
def invocation (handler : Handler Payload Payload) (s : Start) (v : Payload) (w : World) :
    Outcome × World :=
  let answered := handler v (w.begin s)
  (⟨answered.1, answered.2.journal⟩, answered.2)

/-- Calls the handler for one payload after the other, each time with a start of the
same kind. -/
def eachAfresh (handler : Handler Payload Payload) (s : Start) :
    List Payload → World → List Outcome × World
  | [], w => ([], w)
  | v :: vs, w =>
    let one := invocation handler s v w
    let others := eachAfresh handler s vs one.2
    (one.1 :: others.1, others.2)

/-- Calls the handler for one payload after the other with one context for all. -/
def eachOnward (handler : Handler Payload Payload) (s : Start) :
    List Payload → World → List Outcome × World
  | [], w => ([], w)
  | v :: vs, w =>
    let one := invocation handler s v w
    let others := eachOnward handler one.2.toStart vs one.2
    (one.1 :: others.1, others.2)

end OpStack
