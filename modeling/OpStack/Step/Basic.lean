import OpStack.Behaviour

/-!
# OpStack.Step.Basic

A step: an ordered group of middleware on the step's own envelopes.  Towards the
outside it is a wrapper of payload handlers.

On entry the payload is put into the input envelope (the serialize step draws a
fresh request for it), then the span is opened, the start is told, and the chain
of the middleware runs around the next handler outside.
-/

namespace OpStack

variable [Payloads]

/-- What a step needs to fill its input envelope: the serialize step a source of
requests, the others nothing. -/
abbrev StepId.Source : StepId → Type
  | serialize => RequestSource
  | init | build | finalize | deserialize => Unit

/-- The source as the step `k` needs it. -/
def StepId.source (requests : RequestSource) : (k : StepId) → k.Source
  | serialize => requests
  | init | build | finalize | deserialize => ()

/-- Puts the payload into the input envelope. -/
def StepId.enter : (k : StepId) → k.Source → Payload → World → k.Input × World
  | init, _, v, w => (Parameters.mk v, w)
  | serialize, source, v, w =>
    let drawn := source.draw w
    (Serialization.mk v drawn.1, drawn.2)
  | build, _, v, w | finalize, _, v, w | deserialize, _, v, w => (Request.mk v, w)

/-- The middleware of one step, in execution order. -/
structure Step (k : StepId) where
  source : k.Source
  members : Registry (Middleware k.Input k.Output) := ∅
  /-- Says whether an invocation opens a span. -/
  instrument : Bool := true

/-- Runs `body` inside the span, if it is wanted at all. -/
def spanned {α : Type} (wanted : Bool) (s : Span) (body : World → α × World) (w : World) :
    α × World :=
  if wanted then
    let answered := body (w.openSpan s)
    (answered.1, answered.2.closeSpan s)
  else body w

/-- The next handler outside, on the envelopes of the step. -/
def StepId.outward (k : StepId) (next : Handler Payload Payload) : Handler k.Input k.Output :=
  fun input w =>
    let answered := next (k.forward input) w
    (answered.1.map k.complete, answered.2)

namespace Step

variable {k : StepId}

/-- The identifiers of the middleware in execution order. -/
def list (s : Step k) : List String := s.members.ids

/-- The middleware of the step around the next handler outside. -/
def chain (s : Step k) (next : Handler Payload Payload) : Handler k.Input k.Output :=
  decorate (k.outward next) (s.members.order.map (·.wrap))

/-- The step around the next handler outside. -/
def wrap (s : Step k) : Wrapper Payload Payload := fun next v w =>
  let entered := k.enter s.source v w
  spanned s.instrument (.step k)
    (fun w =>
      let answered := s.chain next entered.1 (w.tell (.stepStarted k s.members.size))
      (answered.1.map k.exit, answered.2))
    entered.2

open Text.Outline in
/-- The developer's text of the step. -/
def outline (s : Step k) : Text.Outline :=
  record "Step" [field "id" (quoted k.name), field "middleware" (texts s.list)]

end Step

end OpStack
