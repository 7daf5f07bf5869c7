import OpStack.Payload.Basic

/-!
# OpStack.StepId

The five steps of a stack, in execution order, and the envelopes that the
middleware of each step work on.  The payload leaves an input envelope for the
next handler through `forward`; the answer comes back into an output envelope
through `complete` and leaves through `exit`.  The serialize step holds the parameters
beside the request and forwards the request alone; the deserialize step answers
with its result if it has one, else with the raw response.
-/

namespace OpStack

/-- One of the five steps. -/
inductive StepId where
  | init
  | serialize
  | build
  | finalize
  | deserialize
  deriving DecidableEq, Repr

variable [Payloads]

/-- The payload that the caller gave. -/
structure Parameters where
  parameters : Payload

/-- The parameters beside the request that is made from them. -/
structure Serialization where
  parameters : Payload
  request : Payload

/-- The request on its way out. -/
structure Request where
  request : Payload

/-- The answer on its way back. -/
structure Response where
  result : Payload

/-- The answer as it came, and what was made of it. -/
structure RawResponse where
  rawResponse : Payload
  result : Option Payload

namespace StepId

/-- All steps in execution order. -/
def all : List StepId := [init, serialize, build, finalize, deserialize]

def shortName : StepId → String
  | init => "Initialize"
  | serialize => "Serialize"
  | build => "Build"
  | finalize => "Finalize"
  | deserialize => "Deserialize"

/-- The identifier of the step. -/
def name (k : StepId) : String := k.shortName ++ " stack step"

/-- The input envelope of the step. -/
abbrev Input : StepId → Type
  | init => Parameters
  | serialize => Serialization
  | build | finalize | deserialize => Request

/-- The output envelope of the step. -/
abbrev Output : StepId → Type
  | init | serialize | build | finalize => Response
  | deserialize => RawResponse

/-- The payload for the next handler outside the step. -/
def forward : (k : StepId) → k.Input → Payload
  | init, i => i.parameters
  | serialize, i => i.request
  | build, i | finalize, i | deserialize, i => Request.request i

/-- Puts the answer of the next handler outside the step into the output envelope. -/
def complete : (k : StepId) → Payload → k.Output
  | init, v | serialize, v | build, v | finalize, v => Response.mk v
  | deserialize, v => ⟨v, none⟩

/-- The payload that the step answers with. -/
def exit : (k : StepId) → k.Output → Payload
  | init, o | serialize, o | build, o | finalize, o => Response.result o
  | deserialize, o => o.result.getD o.rawResponse

/-- The envelope with another result. -/
def withResult : (k : StepId) → k.Output → Payload → k.Output
  | init, _, v | serialize, _, v | build, _, v | finalize, _, v => Response.mk v
  | deserialize, o, v => { o with result := some v }

/-- An answer that nobody touched leaves the step as it came. -/
@[simp] theorem exit_complete (k : StepId) (v : Payload) : k.exit (k.complete v) = v := by
  cases k <;> rfl

/-- A result that was set is what the step answers with. -/
@[simp] theorem exit_withResult (k : StepId) (o : k.Output) (v : Payload) :
    k.exit (k.withResult o v) = v := by
  cases k <;> rfl

open Text.Outline in
/-- The developer's text of an input envelope. -/
def inputOutline : (k : StepId) → k.Input → Text.Outline
  | init, i => record "InitializeInput" [field "parameters" i.parameters.outline]
  | serialize, i =>
    record "SerializeInput"
      [field "parameters" i.parameters.outline, field "request" i.request.outline]
  | build, i => record "BuildInput" [field "request" i.request.outline]
  | finalize, i => record "FinalizeInput" [field "request" i.request.outline]
  | deserialize, i => record "DeserializeInput" [field "request" i.request.outline]

open Text.Outline in
/-- The developer's text of an output envelope. -/
def outputOutline : (k : StepId) → k.Output → Text.Outline
  | init, o => record "InitializeOutput" [field "result" o.result.outline]
  | serialize, o => record "SerializeOutput" [field "result" o.result.outline]
  | build, o => record "BuildOutput" [field "result" o.result.outline]
  | finalize, o => record "FinalizeOutput" [field "result" o.result.outline]
  | deserialize, o =>
    record "DeserializeOutput"
      [field "raw_response" o.rawResponse.outline,
       field "result" (match o.result with
        | some v => wrap "Some" v.outline
        | none => word "None")]

/-- The developer's text of the step's kind; the serialize step hides how it makes
requests. -/
def kindText : StepId → String
  | serialize => "Serialize \x7b .. \x7d"
  | k => k.shortName

end StepId

end OpStack
