import OpStack.Behaviour
import OpStack.Script.Access
import OpStack.Text.Utf8
import OpStack.Text.Whole

/-!
# OpStack.Script.Basic

Middleware and handlers written as lists of actions.  A script holds its input
until it hands it to the next handler, and its output as soon as there is one; an
action that fails ends the script with its error.  `middleware` and `terminal`
turn scripts into behaviours.
-/

namespace OpStack

namespace Script

/-- What an action looks at. -/
inductive Target where
  | input
  | parameters
  | output
  | raw
  deriving DecidableEq, Repr

/-- A step of a script. -/
inductive Action where
  | log (x : Datum)
  | type (t : Target)
  | showValue (t : Target)
  | debugInput
  | debugOutput
  | expect (t : Target) (k : Kind)
  | push (t : Target) (text : String)
  | inc (t : Target) (n : UInt32)
  | header (t : Target) (name text : String)
  | set (t : Target) (v : Value)
  | copy (source target : Target)
  | take (t : Target) (k : Kind)
  | decode
  | decodeNumber
  | clearResult
  | ifKind (t : Target) (k : Kind) (actions : List Action)
  | next
  | nextWith (v : Value)
  | tryNext
  | tryNextWith (v : Value)
  | fail (e : Fault)
  | setExtension (v : Value)
  | readExtension (k : Kind)
  | removeExtension (k : Kind)
  | writeExtension (v : Value)
  | cancel
  | state

/-- What a script holds. -/
structure State (I O : Type) where
  input : Option I
  output : Option O

/-- The surroundings of a script: its name in the log, how it reads its envelopes,
and how it calls the next handler, if there is one. -/
structure Setting (I O J P : Type) where
  author : String
  inputs : InputAccess I
  outputs : OutputAccess O
  /-- Calls the next handler. -/
  ask : I → Behaviour J P (Except Fault O)

/-- The input was handed on already. -/
def consumed : Fault := .raised "Consumed" "input already consumed"

/-- There is no output, or it has no result. -/
def noResult : Fault := .raised "NoResult" "no result"

/-- There is no output, or it holds no raw response. -/
def noRaw : Fault := .raised "NoRaw" "no raw response"

/-- The script stands at the end of all calls. -/
def noNext : Fault := .raised "NoNext" "no next handler"

/-- The script ended without an output. -/
def noOutput : Fault := .raised "NoOutput" "script produced no output"

variable {I O J P : Type}

namespace Setting

/-- The payload under the target. -/
def read (x : Setting I O J P) (s : State I O) : Target → Except Fault Value
  | .input => match s.input with
    | some i => .ok (x.inputs.payload i)
    | none => .error consumed
  | .parameters => match s.input with
    | some i => .ok (x.inputs.parameters i)
    | none => .error consumed
  | .output => match s.output.bind x.outputs.result with
    | some v => .ok v
    | none => .error noResult
  | .raw => match s.output.bind x.outputs.raw with
    | some v => .ok v
    | none => .error noRaw

/-- Replaces the payload under the target.  A result can be set without an output
before; the output is made for it. -/
def write (x : Setting I O J P) (s : State I O) (v : Value) : Target → Except Fault (State I O)
  | .input => match s.input with
    | some i => .ok { s with input := some (x.inputs.withPayload i v) }
    | none => .error consumed
  | .parameters => match s.input with
    | some i => .ok { s with input := some (x.inputs.withParameters i v) }
    | none => .error consumed
  | .output => match s.output with
    | some o => .ok { s with output := some (x.outputs.withResult o v) }
    | none => .ok { s with output := some (x.outputs.ofResult v) }
  | .raw => match s.output with
    | some o => match x.outputs.raw o with
      | some _ => .ok { s with output := some (x.outputs.withRaw o v) }
      | none => .error noRaw
    | none => .error noRaw

/-- Changes the payload under the target in place, as a content of type `k`. -/
def modify (x : Setting I O J P) (s : State I O) (t : Target) (k : Kind)
    (f : k.Content → k.Content) : Except Fault (State I O) := do
  let v ← x.read s t
  match Payload.narrow k v with
  | .ok content => x.write s (.of k (f content)) t
  | .error e => .error (.library e)

/-- The content of type `k` under the target. -/
def narrow (x : Setting I O J P) (s : State I O) (t : Target) (k : Kind) :
    Except Fault k.Content := do
  match Payload.narrow k (← x.read s t) with
  | .ok content => .ok content
  | .error e => .error (.library e)

/-- The text that the raw response spells. -/
def rawText (x : Setting I O J P) (s : State I O) : Except Fault String := do
  match Text.ofUtf8 (← x.narrow s .raw .bytes) with
  | .ok text => .ok text
  | .error e => .error (.raised "FromUtf8Error" e.message)

/-- The number that the raw response spells. -/
def rawNumber (x : Setting I O J P) (s : State I O) : Except Fault UInt32 := do
  match Text.readWhole UInt32.size (← x.rawText s).toList with
  | .ok n => .ok (UInt32.ofNat n)
  | .error e => .error (.raised "ParseIntError" e.message)

/-- Writes to the log. -/
def note (x : Setting I O J P) (action : String) (d : Datum) : Behaviour J P Unit :=
  .perform (.note ⟨x.author, action, d⟩)

/-- Calls the next handler with the input that the script holds. -/
def handOn (x : Setting I O J P) (s : State I O) : Behaviour J P (Except Fault O) :=
  match s.input with
  | some i => x.ask i
  | none => .fail consumed

/-- The state after an answer of the next handler that must be no error. -/
def accept (s : State I O) : Except Fault O → Behaviour J P (State I O)
  | .ok o => pure { s with output := some o }
  | .error e => .fail e

/-- The state after an answer of the next handler; an error is logged. -/
def catchFault (x : Setting I O J P) (s : State I O) :
    Except Fault O → Behaviour J P (State I O)
  | .ok o => pure { s with output := some o }
  | .error e => do
    x.note "caught" (.list [.text e.kind, .text e.message])
    pure { s with output := none }

/-- A payload that may be missing, for the log. -/
def optional : Option Value → Datum
  | some v => .payload v
  | none => .null

mutual

/-- Does one action. -/
def exec (x : Setting I O J P) (s : State I O) : Action → Behaviour J P (State I O)
  | .log d => do
    x.note "log" d
    pure s
  | .type t => do
    let v ← .ofCheck (x.read s t)
    x.note "type" (.text (Payload.typeName v))
    pure s
  | .showValue t => do
    let v ← .ofCheck (x.read s t)
    x.note "show" (.payload v)
    pure s
  | .debugInput => do
    x.note "debug" (match s.input with
      | some i => .text (x.inputs.text i)
      | none => .null)
    pure s
  | .debugOutput => do
    x.note "debug" (match s.output with
      | some o => .text (x.outputs.text o)
      | none => .null)
    pure s
  | .expect t k => do
    let _ ← .ofCheck (x.narrow s t k)
    pure s
  | .push t text => .ofCheck (x.modify s t .strings fun (ss : List String) => ss ++ [text])
  | .inc t n => .ofCheck (x.modify s t .u32 fun (m : UInt32) => m + n)
  | .header t name text => .ofCheck (x.modify s t .headers (insertHeader name text))
  | .set t v => .ofCheck (x.write s v t)
  | .copy source target => do
    let v ← .ofCheck (x.read s source)
    .ofCheck (x.write s v target)
  | .take t k => do
    let v ← .ofCheck (x.read s t)
    let s ← .ofCheck (x.write s .unit t)
    match Payload.narrow k v with
    | .ok content => do
      x.note "take" (.content (.of k content))
      pure s
    | .error e => .fail (.library e)
  | .decode => do
    let text ← .ofCheck (x.rawText s)
    .ofCheck (x.write s (.string text) .output)
  | .decodeNumber => do
    let n ← .ofCheck (x.rawNumber s)
    .ofCheck (x.write s (.u32 n) .output)
  | .clearResult => pure { s with output := s.output.map x.outputs.cleared }
  | .ifKind t k actions => do
    let v ← .ofCheck (x.read s t)
    if v.kind = k then x.execAll s actions else pure s
  | .next => do
    let answer ← x.handOn s
    accept { s with input := none } answer
  | .nextWith v => do
    let answer ← x.ask (x.inputs.ofPayload v)
    accept s answer
  | .tryNext => do
    let answer ← x.handOn s
    x.catchFault { s with input := none } answer
  | .tryNextWith v => do
    let answer ← x.ask (x.inputs.ofPayload v)
    x.catchFault s answer
  | .fail e => .fail e
  | .setExtension v => do
    Behaviour.perform (.setExtension v)
    pure s
  | .readExtension k => do
    let found ← Behaviour.perform (.readExtension k)
    x.note "ctx_get" (optional found)
    pure s
  | .removeExtension k => do
    let found ← Behaviour.perform (.removeExtension k)
    x.note "ctx_remove" (optional found)
    pure s
  | .writeExtension v => do
    let found ← Behaviour.perform (.writeExtension v)
    x.note "ctx_mut" (optional found)
    pure s
  | .cancel => do
    Behaviour.perform .cancel
    pure s
  | .state => do
    let cancelled ← Behaviour.perform .isCancelled
    let expired ← Behaviour.perform .isExpired
    x.note "ctx_state" (.list [.flag cancelled, .flag expired])
    pure s

/-- Does the actions in order. -/
def execAll (x : Setting I O J P) (s : State I O) :
    List Action → Behaviour J P (State I O)
  | [] => pure s
  | a :: as => do
    let s ← x.exec s a
    x.execAll s as

end

end Setting

/-- A script as a middleware.  It must leave an output. -/
def toMiddleware (inputs : InputAccess I) (outputs : OutputAccess O) (id : String)
    (actions : List Action) : Middleware I O where
  id
  body i := do
    let x : Setting I O I O := ⟨id, inputs, outputs, .ask⟩
    let s ← x.execAll ⟨some i, none⟩ actions
    match s.output with
    | some o => pure o
    | none => .fail noOutput

/-- A script as a middleware of payload handlers. -/
def middleware (id : String) (actions : List Action) : Middleware Value Value :=
  toMiddleware .plain .plain id actions

/-- A script as a middleware of the step `k`. -/
def stepMiddleware (k : StepId) (id : String) (actions : List Action) :
    Middleware k.Input k.Output :=
  toMiddleware (.step k) (.step k) id actions

/-- A script as a handler.  Without an output it answers with its input, if it still
holds that. -/
def terminal (actions : List Action) : Terminal := fun i => do
  let x : Setting Value Value Empty Empty := ⟨"terminal", .plain, .plain, fun _ => .fail noNext⟩
  let s ← x.execAll ⟨some i, none⟩ actions
  match s.output, s.input with
  | some o, _ => pure o
  | none, some i => pure i
  | none, none => .fail noOutput

end Script

end OpStack
