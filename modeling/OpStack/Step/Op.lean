import OpStack.Step.Basic
import OpStack.Registry.Op

/-!
# OpStack.Step.Op

The operations on a step as data: those that set it up and those that read it.
-/

namespace OpStack.Step

variable [Payloads]

/-- An operation on a step of kind `k`. -/
inductive Op (k : StepId) where
  | add (m : Middleware k.Input k.Output) (position : Position)
  | insert (m : Middleware k.Input k.Output) (anchor : String) (position : Position)
  | swap (id : String) (m : Middleware k.Input k.Output)
  | remove (id : String)
  | clear
  | contains (id : String)
  | setInstrument (wanted : Bool)
  | info

/-- What can be read of a step. -/
structure Info where
  id : String
  size : Nat
  isEmpty : Bool
  /-- The developer's texts of the middleware, in execution order. -/
  order : List String
  /-- The developer's text of the step. -/
  debug : String
  deriving DecidableEq, Repr

/-- What an operation tells the caller. -/
inductive Reply where
  | done
  /-- The identifier of the middleware that was taken out. -/
  | removed (id : String)
  | flag (b : Bool)
  | info (i : Info)
  | failed (e : Error)
  deriving DecidableEq, Repr

variable {k : StepId}

/-- The developer's text of a middleware. -/
def memberText (id : String) : String := (Text.Outline.wrap "Middleware" (.quoted id)).compact

def readInfo (s : Step k) : Info where
  id := k.name
  size := s.members.size
  isEmpty := s.members.isEmpty
  order := s.members.order.map fun m => memberText m.id
  debug := s.outline.compact

/-- The whole outcome of an operation. -/
structure Performed (k : StepId) where
  reply : Reply
  step : Step k
  events : List Registry.Event := []
  /-- The middleware that was taken out. -/
  removed : Option (Middleware k.Input k.Output) := none

/-- The outcome of a registry operation on the middleware. -/
def Performed.ofMembers (s : Step k)
    (p : Registry.Performed (Middleware k.Input k.Output)) : Performed k :=
  let step := { s with members := p.registry }
  match p.reply with
  | .entry m => ⟨.removed m.id, step, p.events, some m⟩
  | .failed e => ⟨.failed e, step, p.events, none⟩
  | .flag b => ⟨.flag b, step, p.events, none⟩
  | _ => ⟨.done, step, p.events, none⟩

def Op.perform (s : Step k) : Op k → Performed k
  | add m position => .ofMembers s (Registry.Op.perform s.members (.add m position))
  | insert m anchor position =>
    .ofMembers s (Registry.Op.perform s.members (.insert m anchor position))
  | swap id m => .ofMembers s (Registry.Op.perform s.members (.swap id m))
  | remove id => .ofMembers s (Registry.Op.perform s.members (.remove id))
  | clear => .ofMembers s (Registry.Op.perform s.members .clear)
  | contains id => .ofMembers s (Registry.Op.perform s.members (.contains id))
  | setInstrument wanted => { reply := .done, step := { s with instrument := wanted } }
  | info => { reply := .info s.readInfo, step := s }

end OpStack.Step
