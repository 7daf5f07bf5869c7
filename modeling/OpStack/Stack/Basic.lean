import OpStack.Step.Basic

/-!
# OpStack.Stack.Basic

The stack: five steps in a fixed order, one around the next, around a handler that
answers the finished request.  A stack is itself a wrapper of payload handlers, so
it can stand in a chain beside plain middleware and single steps.
-/

namespace OpStack

variable [Payloads]

/-- An operation stack of five ordered steps. -/
structure Stack where
  id : String
  /-- Says whether an invocation opens a span. -/
  instrument : Bool
  init : Step .init
  serialize : Step .serialize
  build : Step .build
  finalize : Step .finalize
  deserialize : Step .deserialize

/-- What a stack is made from. -/
structure StackOptions where
  id : String
  instrument : Bool := true
  deriving DecidableEq, Repr

namespace Stack

/-- The step `k`. -/
def step (s : Stack) : (k : StepId) → Step k
  | .init => s.init
  | .serialize => s.serialize
  | .build => s.build
  | .finalize => s.finalize
  | .deserialize => s.deserialize

/-- The stack with another step `k`. -/
def withStep (s : Stack) : (k : StepId) → Step k → Stack
  | .init, t => { s with init := t }
  | .serialize, t => { s with serialize := t }
  | .build, t => { s with build := t }
  | .finalize, t => { s with finalize := t }
  | .deserialize, t => { s with deserialize := t }

/-- The step that was put in is there. -/
@[simp] theorem step_withStep (s : Stack) (k : StepId) (t : Step k) :
    (s.withStep k t).step k = t := by
  cases k <;> rfl

/-- The other steps are as before. -/
theorem step_withStep_of_ne (s : Stack) {k j : StepId} (t : Step k) (h : j ≠ k) :
    (s.withStep k t).step j = s.step j := by
  cases k <;> cases j <;> simp_all [step, withStep]

/-- Opens spans for the stack and all of its steps, or for none. -/
def setInstrument (s : Stack) (wanted : Bool) : Stack where
  id := s.id
  instrument := wanted
  init := { s.init with instrument := wanted }
  serialize := { s.serialize with instrument := wanted }
  build := { s.build with instrument := wanted }
  finalize := { s.finalize with instrument := wanted }
  deserialize := { s.deserialize with instrument := wanted }

/-- A stack without middleware, whose requests come from the source. -/
def new (options : StackOptions) (source : RequestSource) : Stack :=
  setInstrument
    { id := options.id
      instrument := options.instrument
      init := { source := () }
      serialize := { source }
      build := { source := () }
      finalize := { source := () }
      deserialize := { source := () } }
    options.instrument

/-- The identifier of the stack, then for every step its name and the identifiers of
its middleware. -/
def list (s : Stack) : List String :=
  s.id :: StepId.all.flatMap fun k => k.name :: (s.step k).list

/-- The steps around a handler, in execution order. -/
def wrappers (s : Stack) : List (Wrapper Payload Payload) :=
  StepId.all.map fun k => (s.step k).wrap

/-- Tells of a failed invocation. -/
def report (s : Stack) (answered : Except Fault Payload × World) : Except Fault Payload × World :=
  match answered with
  | (.error e, w) => (.error e, w.tell (.stackFailed s.id e.message))
  | (.ok v, w) => (.ok v, w)

/-- The stack around the next handler. -/
def wrap (s : Stack) : Wrapper Payload Payload := fun next v w =>
  spanned s.instrument (.stack s.id) (fun w => s.report (decorate next s.wrappers v w)) w

/-- Runs one invocation around the handler. -/
def invoke (s : Stack) (handler : Handler Payload Payload) : Handler Payload Payload :=
  s.wrap handler

/-- The handler inside the stack, to be called any number of times. -/
def decorateHandler (s : Stack) (handler : Handler Payload Payload) : Handler Payload Payload :=
  decorate handler [s.wrap]

open Text.Outline in
/-- The developer's text of the stack. -/
def outline (s : Stack) : Text.Outline :=
  record "Stack"
    [field "id" (quoted s.id),
     field "initialize" s.init.outline,
     field "serialize" s.serialize.outline,
     field "build" s.build.outline,
     field "finalize" s.finalize.outline,
     field "deserialize" s.deserialize.outline]

/-- The text for readers: the identifier, under it the steps, and under each step its
middleware, one to a line and a tab deeper at each level. -/
def display (s : Stack) : String :=
  s.id ++ "\n" ++ String.join (StepId.all.map fun k =>
    "\t" ++ k.name ++ "\n" ++ String.join ((s.step k).list.map fun id => "\t\t" ++ id ++ "\n"))

end Stack

/-- What can stand in a chain of payload handlers. -/
inductive Layer where
  | plain (m : Middleware Payload Payload)
  | step (k : StepId) (s : Step k)
  | stack (s : Stack)

namespace Layer

/-- The identifier of the layer. -/
def id : Layer → String
  | plain m => m.id
  | step k _ => k.name
  | stack s => s.id

/-- The layer around the next handler. -/
def wrap : Layer → Wrapper Payload Payload
  | plain m => m.wrap
  | step _ s => s.wrap
  | stack s => s.wrap

end Layer

/-- The handler inside all layers; the first one is outermost. -/
def chain (handler : Handler Payload Payload) (layers : List Layer) : Handler Payload Payload :=
  decorate handler (layers.map (·.wrap))

end OpStack
