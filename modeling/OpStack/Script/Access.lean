import OpStack.StepId
import OpStack.Value.Source

/-!
# OpStack.Script.Access

How a script reads and writes envelopes.  Inside a step these are the step's own;
in a chain of payload handlers the envelope is the payload itself.
-/

namespace OpStack.Script

/-- Access to an input envelope. -/
structure InputAccess (I : Type) where
  /-- What the step is about. -/
  payload : I → Value
  withPayload : I → Value → I
  /-- What the caller gave, where it is held apart. -/
  parameters : I → Value
  withParameters : I → Value → I
  /-- A new envelope around the payload. -/
  ofPayload : Value → I
  text : I → String

/-- Access to an output envelope. -/
structure OutputAccess (O : Type) where
  /-- The result, if there is one. -/
  result : O → Option Value
  withResult : O → Value → O
  /-- The envelope without its result. -/
  cleared : O → O
  /-- The answer as it came, if the envelope holds it. -/
  raw : O → Option Value
  withRaw : O → Value → O
  /-- A new envelope around the result. -/
  ofResult : Value → O
  text : O → String

/-- Payloads as inputs. -/
def InputAccess.plain : InputAccess Value where
  payload v := v
  withPayload _ v := v
  parameters v := v
  withParameters _ v := v
  ofPayload v := v
  text v := (Payload.outline v).compact

/-- Payloads as outputs. -/
def OutputAccess.plain : OutputAccess Value where
  result v := some v
  withResult _ v := v
  cleared _ := .unit
  raw _ := none
  withRaw v _ := v
  ofResult v := v
  text v := (Payload.outline v).compact

/-- Requests as inputs of the step `k`. -/
def InputAccess.request (text : Request → String) : InputAccess Request where
  payload i := i.request
  withPayload i v := { i with request := v }
  parameters i := i.request
  withParameters i v := { i with request := v }
  ofPayload v := ⟨v⟩
  text := text

/-- Responses as outputs. -/
def OutputAccess.response (text : Response → String) : OutputAccess Response where
  result o := some o.result
  withResult o v := { o with result := v }
  cleared _ := ⟨.unit⟩
  raw _ := none
  withRaw o _ := o
  ofResult v := ⟨v⟩
  text := text

/-- The inputs of the step `k`. -/
def InputAccess.step : (k : StepId) → InputAccess k.Input
  | .init =>
    { payload := fun i => i.parameters
      withPayload := fun i v => { i with parameters := v }
      parameters := fun i => i.parameters
      withParameters := fun i v => { i with parameters := v }
      ofPayload := fun v => ⟨v⟩
      text := fun i => (StepId.inputOutline .init i).compact }
  | .serialize =>
    { payload := fun i => i.request
      withPayload := fun i v => { i with request := v }
      parameters := fun i => i.parameters
      withParameters := fun i v => { i with parameters := v }
      ofPayload := fun v => ⟨.unit, v⟩
      text := fun i => (StepId.inputOutline .serialize i).compact }
  | .build => .request fun i => (StepId.inputOutline .build i).compact
  | .finalize => .request fun i => (StepId.inputOutline .finalize i).compact
  | .deserialize => .request fun i => (StepId.inputOutline .deserialize i).compact

/-- The outputs of the step `k`. -/
def OutputAccess.step : (k : StepId) → OutputAccess k.Output
  | .init => .response fun o => (StepId.outputOutline .init o).compact
  | .serialize => .response fun o => (StepId.outputOutline .serialize o).compact
  | .build => .response fun o => (StepId.outputOutline .build o).compact
  | .finalize => .response fun o => (StepId.outputOutline .finalize o).compact
  | .deserialize =>
    { result := fun o => o.result
      withResult := fun o v => { o with result := some v }
      cleared := fun o => { o with result := none }
      raw := fun o => some o.rawResponse
      withRaw := fun o v => { o with rawResponse := v }
      ofResult := fun v => ⟨.unit, some v⟩
      text := fun o => (StepId.outputOutline .deserialize o).compact }

end OpStack.Script
