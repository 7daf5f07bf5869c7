import OpStack.Registry.Basic

/-!
# OpStack.Registry.Op

The operations on a registry as data, and runs of them.  `Op.perform` says for
each what the caller is told, which registry is left and which events were
reported; a failed change leaves the registry as it was and reports nothing, and
neither does a reading operation report anything.
-/

namespace OpStack.Registry

/-- An operation on a registry. -/
inductive Op (α : Type) where
  | add (entry : α) (position : Position)
  | insert (entry : α) (anchor : String) (position : Position)
  | swap (id : String) (entry : α)
  | remove (id : String)
  | clear
  | get (id : String)
  | contains (id : String)
  | size
  | ids
  | order

/-- What an operation tells the caller. -/
inductive Reply (α : Type) where
  | done
  | entry (e : α)
  | found (e : Option α)
  | flag (b : Bool)
  | size (n : Nat) (isEmpty : Bool)
  | ids (ids : List String)
  | order (entries : List α)
  | failed (e : Error)
  deriving DecidableEq, Repr

/-- The whole outcome of an operation. -/
structure Performed (α : Type) where
  reply : Reply α
  registry : Registry α
  /-- What was done to the places. -/
  edits : List (Edit α) := []
  events : List Event := []

variable {α β : Type} [Identified α]

/-- The outcome of a change that may have failed. -/
def Performed.ofChange (r : Registry α) (reply : β → Reply α) :
    Except Error (Change α β) → Performed α
  | .ok c => ⟨reply c.value, r.edited c.edits, c.edits, [c.event]⟩
  | .error e => { reply := .failed e, registry := r }

def Op.perform (r : Registry α) : Op α → Performed α
  | add entry position => .ofChange r (fun _ => .done) (r.add entry position)
  | insert entry anchor position => .ofChange r (fun _ => .done) (r.insert entry anchor position)
  | swap id entry => .ofChange r .entry (r.swap id entry)
  | remove id => .ofChange r .entry (r.remove id)
  | clear => .ofChange r (fun _ => .done) (.ok r.clear)
  | get id => { reply := .found (r.get? id), registry := r }
  | contains id => { reply := .flag (r.contains id), registry := r }
  | size => { reply := .size r.size r.isEmpty, registry := r }
  | ids => { reply := .ids r.ids, registry := r }
  | order => { reply := .order r.order, registry := r }

/-- The registry that a run of operations leaves. -/
def run (r : Registry α) (ops : List (Op α)) : Registry α :=
  ops.foldl (fun r op => (op.perform r).registry) r

/-- The events that a run of operations reports, in order. -/
def events (r : Registry α) : List (Op α) → List Event
  | [] => []
  | op :: ops => (op.perform r).events ++ events (op.perform r).registry ops

end OpStack.Registry
