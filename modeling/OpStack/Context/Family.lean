import OpStack.Context.Basic

/-!
# OpStack.Context.Family

Contexts and cancel handles side by side.  A family is everything that was reached
from one new context by cloning it, taking handles on it and cloning those; its
members share one flag, so that a cancel by any handle shows in all of them.
-/

namespace OpStack.Context

variable [Payloads]

/-- Contexts and handles by number; a handle is known by its flag. -/
structure Family where
  contexts : List Context
  handles : List Nat
  flags : Flags
  /-- How many families there are; the next one takes this flag. -/
  families : Nat

namespace Family

/-- What can be done with contexts and handles. -/
inductive Op where
  | new
  | clone (context : Nat)
  | set (context : Nat) (v : Payload)
  | get (context : Nat) (k : Payload.Kind)
  /-- Replaces a content in place. -/
  | write (context : Nat) (v : Payload)
  | remove (context : Nat) (k : Payload.Kind)
  | has (context : Nat) (k : Payload.Kind)
  | handle (context : Nat)
  | cloneHandle (handle : Nat)
  | cancel (handle : Nat)
  | isCancelled (handle : Nat)
  /-- Sets the deadline to a time span in milliseconds from now. -/
  | timeout (context : Nat) (span : Nat)
  /-- Sets the deadline to a point in time, in milliseconds from the start. -/
  | deadline (context : Nat) (offset : Nat)
  | readDeadline (context : Nat)
  /-- Reads the start and the time since; only that there are such times is told. -/
  | clock (context : Nat)

/-- What an operation tells the caller. -/
inductive Reply where
  | done
  | index (i : Nat)
  /-- The number of a clone, which started when its source did. -/
  | cloned (i : Nat) (sameStart : Bool)
  | found (v : Option Payload)
  | flag (b : Bool)
  | deadline (d : Option Deadline)
  | clock

/-- What stops a run. -/
inductive Stop where
  /-- The operation names a context or a handle that does not exist. -/
  | unknown
  /-- The clock does not reach the deadline asked for. -/
  | overflow
  deriving DecidableEq, Repr

def Stop.message : Stop → String
  | unknown => "no such context or handle"
  | overflow => "overflow when adding duration to instant"

/-- One new context. -/
def start : Family := ⟨[{ flag := 0 }], [], ∅, 1⟩

/-- The context with the number. -/
def context (f : Family) (i : Nat) : Except Stop Context :=
  match f.contexts[i]? with
  | some c => .ok c
  | none => .error .unknown

/-- The flag of the handle with the number. -/
def handle (f : Family) (i : Nat) : Except Stop Nat :=
  match f.handles[i]? with
  | some flag => .ok flag
  | none => .error .unknown

/-- Puts a context in the place of the one with the number. -/
def put (f : Family) (i : Nat) (c : Context) : Family :=
  { f with contexts := f.contexts.set i c }

def perform (f : Family) : Op → Except Stop (Reply × Family)
  | .new =>
    let c : Context := { flag := f.families }
    .ok (.index f.contexts.length,
      { f with contexts := f.contexts ++ [c], families := f.families + 1 })
  | .clone i => do
    let c ← f.context i
    return (.cloned f.contexts.length true, { f with contexts := f.contexts ++ [c.clone] })
  | .set i v => do
    let c ← f.context i
    return (.done, f.put i { c with extensions := c.extensions.setValue v })
  | .get i k => do
    let c ← f.context i
    return (.found (c.extensions.value? k), f)
  | .write i v => do
    let c ← f.context i
    return (.found (c.extensions.value? v.kind),
      f.put i { c with extensions := c.extensions.writeValue v })
  | .remove i k => do
    let c ← f.context i
    return (.found (c.extensions.value? k),
      f.put i { c with extensions := c.extensions.erase k })
  | .has i k => do
    let c ← f.context i
    return (.flag (c.extensions.contains k), f)
  | .handle i => do
    let c ← f.context i
    return (.index f.handles.length, { f with handles := f.handles ++ [c.flag] })
  | .cloneHandle h => do
    let flag ← f.handle h
    return (.index f.handles.length, { f with handles := f.handles ++ [flag] })
  | .cancel h => do
    let flag ← f.handle h
    return (.done, { f with flags := f.flags.raise flag })
  | .isCancelled h => do
    let flag ← f.handle h
    return (.flag (f.flags.isRaised flag), f)
  | .timeout i span => do
    let c ← f.context i
    match Deadline.after? span with
    | some d => return (.done, f.put i { c with deadline := some d })
    | none => .error .overflow
  | .deadline i offset => do
    let c ← f.context i
    return (.done, f.put i { c with deadline := some (.fixed offset) })
  | .readDeadline i => do
    let c ← f.context i
    return (.deadline c.deadline, f)
  | .clock i => do
    let _ ← f.context i
    return (.clock, f)

end Family

end OpStack.Context
