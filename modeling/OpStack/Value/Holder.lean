import OpStack.Payload.Basic

/-!
# OpStack.Value.Holder

A payload that is read, changed in place and finally given away.  Giving it away
ends its life, also when it turns out not to be of the type asked for.
-/

namespace OpStack.Value.Holder

variable [Payloads]

/-- What can be done with a payload. -/
inductive Op where
  | typeName
  | debug
  | look
  | is (k : Payload.Kind)
  | ref (k : Payload.Kind)
  | replace (k : Payload.Kind) (content : k.Content)
  | into (k : Payload.Kind)

/-- What an operation tells the caller. -/
inductive Reply where
  | text (s : String)
  /-- The developer's text on one line and on several. -/
  | debug (compact pretty : String)
  | payload (v : Payload)
  | flag (b : Bool)
  /-- The content of the payload. -/
  | content (v : Payload)
  | failed (e : Error)
  /-- The payload was given away before. -/
  | gone

/-- The content of type `k`, or why there is none. -/
def contentReply (k : Payload.Kind) (v : Payload) : Reply :=
  match v.narrow k with
  | .ok content => .content (.of k content)
  | .error e => .failed e

/-- Performs an operation on the payload, if it is still held. -/
def perform : Option Payload → Op → Reply × Option Payload
  | none, _ => (.gone, none)
  | some v, .typeName => (.text v.typeName, some v)
  | some v, .debug => (.debug v.outline.compact v.outline.pretty, some v)
  | some v, .look => (.payload v, some v)
  | some v, .is k => (.flag (decide (v.kind = k)), some v)
  | some v, .ref k => (contentReply k v, some v)
  | some v, .replace k content =>
    (contentReply k v, if v.kind = k then some (.of k content) else some v)
  | some v, .into k => (contentReply k v, none)

end OpStack.Value.Holder
