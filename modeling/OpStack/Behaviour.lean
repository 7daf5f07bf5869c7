import OpStack.World

/-!
# OpStack.Behaviour

What the code of a middleware or a handler does, as a tree: it ends, it calls the next handler
and goes on with the answer (an error can be caught), or it does something to a context, to the
log or to the trace and goes on with what that tells it.  Calls and effects are about the
context that was given to the behaviour, or about one that it names, such as a clone that it
made.  Spans and request counts are out of its hands.

`Behaviour.run` gives the tree its meaning over the handler that comes next.
-/

namespace OpStack

variable [Payloads]

/-- What a behaviour can do besides calling the next handler. -/
inductive Effect where
  /-- Writes to the log. -/
  | note (n : Note)
  /-- Tells an event. -/
  | remark (r : Remark)
  /-- Stores a payload among the extensions. -/
  | setExtension (v : Payload)
  | readExtension (k : Payload.Kind)
  /-- Writes a payload over the extension of its type, if there is one, and reads the
  old one. -/
  | writeExtension (v : Payload)
  | removeExtension (k : Payload.Kind)
  /-- Raises the cancellation flag. -/
  | cancel
  | isCancelled
  | isExpired
  | deadline
  | setDeadline (d : Deadline)
  /-- Makes a clone and tells its number. -/
  | clone
  /-- Makes a context of a new family and tells its number. -/
  | fresh
  /-- Puts the context in the place of the one with the number, and that one in its place. -/
  | exchange (i : Nat)

/-- What an effect tells the behaviour. -/
abbrev Effect.Answer : Effect → Type
  | note _ | remark _ | setExtension _ | cancel | setDeadline _ | exchange _ => Unit
  | readExtension _ | writeExtension _ | removeExtension _ => Option Payload
  | isCancelled | isExpired => Bool
  | deadline => Option Deadline
  | clone | fresh => Nat

/-- Changes the extensions of the context at hand. -/
def World.extend (w : World) (f : Extensions → Extensions) : World :=
  { w with toMemory := w.alter w.hand fun c => { c with extensions := f c.extensions } }

/-- Does the effect to the context at hand. -/
def Effect.apply : (e : Effect) → World → e.Answer × World
  | note n, w => ((), { w with journal := w.journal ++ [n] })
  | remark r, w => ((), w.tell (.remark r))
  | setExtension v, w => ((), w.extend (·.setValue v))
  | readExtension k, w => (w.context.extensions.value? k, w)
  | writeExtension v, w =>
    (w.context.extensions.value? v.kind, w.extend (·.writeValue v))
  | removeExtension k, w => (w.context.extensions.value? k, w.extend (·.erase k))
  | cancel, w => ((), { w with toMemory := w.toMemory.cancel w.hand })
  | isCancelled, w => (w.flags.isRaised w.context.flag, w)
  | isExpired, w => (w.context.isExpired, w)
  | deadline, w => (w.context.deadline, w)
  | setDeadline d, w =>
    ((), { w with toMemory := w.alter w.hand fun c => { c with deadline := some d } })
  | clone, w => (w.made, { w with toMemory := w.add w.context.clone })
  | fresh, w => (w.made, { w with toMemory := w.addFresh })
  | exchange i, w => ((), { w with toMemory := w.toMemory.exchange w.hand i })

/-- What is done to inputs of type `I` by a handler that answers with an `O` or an
error, in the state of an invocation. -/
abbrev Handler (I O : Type) := I → World → Except Fault O × World

/-- A behaviour that ends with an `α` or an error and may call a next handler.  Whom a call or
an effect names is the number of a context; without one it is the context at hand. -/
inductive Behaviour (I O α : Type) where
  | finish (result : Except Fault α)
  /-- Hands an input on, with the context. -/
  | callOn (c : Option Nat) (input : I) (resume : Except Fault O → Behaviour I O α)
  /-- Does something to the context. -/
  | actOn (c : Option Nat) (e : Effect) (resume : e.Answer → Behaviour I O α)

namespace Behaviour

variable {I O α β : Type}

/-- Hands an input on, with the own context. -/
@[match_pattern]
abbrev call (input : I) (resume : Except Fault O → Behaviour I O α) : Behaviour I O α :=
  callOn none input resume

/-- Does something to the own context. -/
@[match_pattern]
abbrev act (e : Effect) (resume : e.Answer → Behaviour I O α) : Behaviour I O α :=
  actOn none e resume

/-- Runs the behaviour over the next handler. -/
def run (next : Handler I O) : Behaviour I O α → World → Except Fault α × World
  | finish result, w => (result, w)
  | callOn c input resume, w =>
    let answered := w.lend c (next input)
    (resume answered.1).run next answered.2
  | actOn c e resume, w =>
    let applied := w.lend c e.apply
    (resume applied.1).run next applied.2

/-- Goes on with `f` where the behaviour ends without an error. -/
def bind (f : α → Behaviour I O β) : Behaviour I O α → Behaviour I O β
  | finish (.ok a) => f a
  | finish (.error e) => finish (.error e)
  | callOn c input resume => callOn c input fun r => (resume r).bind f
  | actOn c e resume => actOn c e fun a => (resume a).bind f

instance : Monad (Behaviour I O) where
  pure a := finish (.ok a)
  bind b f := b.bind f

/-- What is bound runs where the first part ended, unless that was an error. -/
theorem run_bind (next : Handler I O) (f : α → Behaviour I O β) (b : Behaviour I O α) (w : World) :
    (b.bind f).run next w =
      match b.run next w with
      | (.ok a, w) => (f a).run next w
      | (.error e, w) => (.error e, w) := by
  induction b generalizing w with
  | finish result => cases result <;> rfl
  | callOn c input resume ih => exact ih _ _
  | actOn c e resume ih => exact ih _ _

def fail (e : Fault) : Behaviour I O α := finish (.error e)

/-- Ends with the result of a check. -/
def ofCheck : Except Fault α → Behaviour I O α := finish

def perform (e : Effect) : Behaviour I O e.Answer := act e fun a => finish (.ok a)

/-- Calls the next handler and reads its answer, errors included. -/
def ask (input : I) : Behaviour I O (Except Fault O) := call input fun r => finish (.ok r)

end Behaviour

/-- A named behaviour around the handlers that come after it. -/
structure Middleware (I O : Type) where
  id : String
  body : I → Behaviour I O O

instance {I O : Type} : Identified (Middleware I O) := ⟨Middleware.id⟩

/-- Puts something around a handler. -/
abbrev Wrapper (I O : Type) := Handler I O → Handler I O

/-- The middleware around the next handler. -/
def Middleware.wrap {I O : Type} (m : Middleware I O) : Wrapper I O :=
  fun next input => (m.body input).run next

/-- The handler with all wrappers around it; the first one is outermost. -/
def decorate {I O : Type} (handler : Handler I O) (wrappers : List (Wrapper I O)) : Handler I O :=
  wrappers.foldr (fun wrap next => wrap next) handler

/-- Without wrappers the handler is left. -/
@[simp] theorem decorate_nil {I O : Type} (handler : Handler I O) : decorate handler [] = handler :=
  rfl

/-- The first wrapper is outermost. -/
@[simp] theorem decorate_cons {I O : Type} (handler : Handler I O) (wrap : Wrapper I O)
    (wrappers : List (Wrapper I O)) :
    decorate handler (wrap :: wrappers) = wrap (decorate handler wrappers) :=
  rfl

/-- Wrappers in two groups: the first group is around what the second one makes. -/
theorem decorate_append {I O : Type} (handler : Handler I O) (xs ys : List (Wrapper I O)) :
    decorate handler (xs ++ ys) = decorate (decorate handler ys) xs := by
  simp [decorate, List.foldr_append]

/-- A handler at the end of all calls: its behaviour has no next one to call. -/
abbrev Terminal := Payload → Behaviour Empty Empty Payload

/-- The handler that a terminal is. -/
def Terminal.handler (t : Terminal) : Handler Payload Payload :=
  fun input => (t input).run nofun

end OpStack
