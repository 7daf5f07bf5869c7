import OpStack.Proofs.Registry.Cut
import OpStack.Stack.Basic

/-!
# OpStack.Proofs.Arrivals

Which calls a run makes.  A `Call` is an input together with the state in which it
reaches a handler; the lists below hold the calls in the order in which they are made:

* `Behaviour.calls` — those of a behaviour to the next handler;
* `arrivals` — those that reach a handler behind a list of middleware, from one call of
  the first of them;
* `Step.arrivals` — those that leave a step;
* `Stack.reach` — those that leave a list of steps, and from it `Stack.entries` (those
  that enter a step), `Stack.visits` (those that enter a middleware) and `Stack.calls`
  (those of the handler inside the stack).

The handlers are arbitrary, so what a call does to the state is seen by the calls after
it.  The definitions follow `Behaviour.run`, `decorate`, `Step.wrap` and `Stack.invoke`;
`Step.wrap_eq` and `Stack.invoke_eq` cut these into what comes before the inner chain,
the chain, and what comes after it.  `Stack.holding` makes a stack that holds any given
middleware.
-/

namespace OpStack

/-! ## The steps around a step -/

/-- The steps before the step, in execution order. -/
def StepId.earlier : StepId → List StepId
  | init => []
  | serialize => [init]
  | build => [init, serialize]
  | finalize => [init, serialize, build]
  | deserialize => [init, serialize, build, finalize]

/-- The steps after the step, in execution order. -/
def StepId.later : StepId → List StepId
  | init => [serialize, build, finalize, deserialize]
  | serialize => [build, finalize, deserialize]
  | build => [finalize, deserialize]
  | finalize => [deserialize]
  | deserialize => []

/-- Every step cuts the execution order in two. -/
theorem StepId.all_eq (k : StepId) : all = k.earlier ++ k :: k.later := by
  cases k <;> rfl

theorem StepId.ne_of_mem_earlier {k j : StepId} (h : j ∈ k.earlier) : j ≠ k := by
  cases k <;> cases j <;> simp [earlier] at h ⊢

theorem StepId.ne_of_mem_later {k j : StepId} (h : j ∈ k.later) : j ≠ k := by
  cases k <;> cases j <;> simp [later] at h ⊢

/-- A later step has the step and the steps between before it. -/
theorem StepId.earlier_of_mem_later {k j : StepId} (h : j ∈ k.later) :
    ∃ between, j.earlier = k.earlier ++ k :: between := by
  cases k <;> cases j <;> simp [earlier, later] at h ⊢

/-! ## Behaviours and lists of middleware -/

variable [Payloads]

/-- A call of a handler: the input and the state in which it comes. -/
abbrev Call (I : Type) := I × World

variable {I O α : Type}

/-- The calls of the next handler, in order. -/
def Behaviour.calls (next : Handler I O) : Behaviour I O α → World → List (Call I)
  | finish _, _ => []
  | callOn c input resume, w =>
    let answered := w.lend c (next input)
    (input, w.offer c) :: (resume answered.1).calls next answered.2
  | actOn c e resume, w =>
    let applied := w.lend c e.apply
    (resume applied.1).calls next applied.2

/-- The handler inside a list of middleware. -/
def within (handler : Handler I O) (ms : List (Middleware I O)) : Handler I O :=
  decorate handler (ms.map (·.wrap))

@[simp] theorem within_nil (handler : Handler I O) : within handler [] = handler := rfl

/-- The first middleware is around those that come after it. -/
theorem within_cons (handler : Handler I O) (m : Middleware I O) (ms : List (Middleware I O)) :
    within handler (m :: ms) = m.wrap (within handler ms) := rfl

/-- The second group of middleware is inside the first. -/
theorem within_append (handler : Handler I O) (ms ns : List (Middleware I O)) :
    within handler (ms ++ ns) = within (within handler ns) ms := by
  rw [within, List.map_append, decorate_append]
  rfl

/-- The calls that reach the handler inside a list of middleware, from one call of the
first of them. -/
def arrivals (handler : Handler I O) : List (Middleware I O) → Call I → List (Call I)
  | [], c => [c]
  | m :: ms, c =>
    ((m.body c.1).calls (within handler ms) c.2).flatMap (arrivals handler ms)

/-- What passes the first group reaches the second. -/
theorem arrivals_append (handler : Handler I O) (ms ns : List (Middleware I O)) (c : Call I) :
    arrivals handler (ms ++ ns) c =
      (arrivals (within handler ns) ms c).flatMap (arrivals handler ns) := by
  induction ms generalizing c with
  | nil => simp [arrivals]
  | cons m ms ih =>
      rw [List.cons_append, arrivals, arrivals, within_append, List.flatMap_assoc]
      congr 1
      exact funext ih

/-! ## Steps -/

namespace Step

variable {k : StepId}

/-- The call of the inner chain that a call of the step makes. -/
def inward (s : Step k) (c : Call Payload) : Call k.Input :=
  let entered := k.enter s.source c.1 c.2
  let w := if s.instrument then entered.2.openSpan (.step k) else entered.2
  (entered.1, w.tell (.stepStarted k s.members.size))

/-- What the step makes of the answer of the inner chain. -/
def dismiss (s : Step k) (answered : Except Fault k.Output × World) :
    Except Fault Payload × World :=
  (answered.1.map k.exit,
    if s.instrument then answered.2.closeSpan (.step k) else answered.2)

/-- A step is its chain between the two. -/
theorem wrap_eq (s : Step k) (next : Handler Payload Payload) (v : Payload) (w : World) :
    s.wrap next v w =
      s.dismiss (within (k.outward next) s.members.order
        (s.inward (v, w)).1 (s.inward (v, w)).2) := by
  cases hi : s.instrument <;> simp [wrap, dismiss, inward, spanned, chain, within, hi]

/-- Only the serialize step makes requests on entering. -/
theorem drawn_inward_of_ne (hk : k ≠ .serialize) (s : Step k) (c : Call Payload) :
    (s.inward c).2.drawn = c.2.drawn := by
  cases k with
  | serialize => exact absurd rfl hk
  | init | build | finalize | deserialize =>
      unfold inward
      split <;> rfl

/-- The serialize step makes one. -/
theorem drawn_inward (s : Step .serialize) (c : Call Payload) :
    (s.inward c).2.drawn = (s.source.draw c.2).2.drawn := by
  unfold inward
  split <;> rfl

/-- Entering a step logs nothing. -/
theorem journal_inward (s : Step k) (c : Call Payload) :
    (s.inward c).2.journal = c.2.journal := by
  have henter : (k.enter s.source c.1 c.2).2.journal = c.2.journal := by
    cases k <;> rfl
  rw [← henter]
  unfold inward
  split <;> rfl

/-- The calls of the next handler outside that one call of the step makes. -/
def arrivals (s : Step k) (next : Handler Payload Payload) (c : Call Payload) : List (Call Payload) :=
  (OpStack.arrivals (k.outward next) s.members.order (s.inward c)).map fun c =>
    (k.forward c.1, c.2)

end Step

/-! ## Stacks -/

namespace Stack

/-- A new stack that holds the middleware. -/
def holding (options : StackOptions) (source : RequestSource)
    (ms : (k : StepId) → List (Middleware k.Input k.Output)) : Stack :=
  StepId.all.foldl (fun s k => s.withStep k { s.step k with members := .ofList (ms k) })
    (new options source)

/-- The stack holds what it was given, in this order. -/
theorem order_holding (options : StackOptions) (source : RequestSource)
    (ms : (k : StepId) → List (Middleware k.Input k.Output)) (k : StepId) :
    ((holding options source ms).step k).members.order = ms k := by
  have hmembers : ((holding options source ms).step k).members = .ofList (ms k) := by
    cases k <;> rfl
  rw [hmembers, Registry.order_ofList]

/-- The handler inside the steps `ks` of the stack. -/
def around (s : Stack) (handler : Handler Payload Payload) (ks : List StepId) :
    Handler Payload Payload :=
  decorate handler (ks.map fun k => (s.step k).wrap)

@[simp] theorem around_nil (s : Stack) (handler : Handler Payload Payload) :
    s.around handler [] = handler := rfl

/-- The first step is around those that come after it. -/
theorem around_cons (s : Stack) (handler : Handler Payload Payload) (k : StepId) (ks : List StepId) :
    s.around handler (k :: ks) = (s.step k).wrap (s.around handler ks) := rfl

/-- The second group of steps is inside the first. -/
theorem around_append (s : Stack) (handler : Handler Payload Payload) (ks js : List StepId) :
    s.around handler (ks ++ js) = s.around (s.around handler js) ks := by
  rw [around, List.map_append, decorate_append]
  rfl

/-- The calls that reach the handler inside the steps `ks`, from one call of the first
of them. -/
def reach (s : Stack) (handler : Handler Payload Payload) :
    List StepId → Call Payload → List (Call Payload)
  | [], c => [c]
  | k :: ks, c =>
    ((s.step k).arrivals (s.around handler ks) c).flatMap (s.reach handler ks)

/-- What passes the first steps reaches the others. -/
theorem reach_append (s : Stack) (handler : Handler Payload Payload) (ks js : List StepId)
    (c : Call Payload) :
    s.reach handler (ks ++ js) c =
      (s.reach (s.around handler js) ks c).flatMap (s.reach handler js) := by
  induction ks generalizing c with
  | nil => simp [reach]
  | cons k ks ih =>
      rw [List.cons_append, reach, reach, around_append, List.flatMap_assoc]
      congr 1
      exact funext ih

/-- The call of the first step that an invocation makes. -/
def inward (s : Stack) (c : Call Payload) : Call Payload :=
  (c.1, if s.instrument then c.2.openSpan (.stack s.id) else c.2)

/-- Entering a stack makes no requests. -/
theorem drawn_inward (s : Stack) (c : Call Payload) : (s.inward c).2.drawn = c.2.drawn := by
  unfold inward
  split <;> rfl

/-- Entering a stack logs nothing. -/
theorem journal_inward (s : Stack) (c : Call Payload) : (s.inward c).2.journal = c.2.journal := by
  unfold inward
  split <;> rfl

/-- What the stack makes of the answer of its steps. -/
def dismiss (s : Stack) (answered : Except Fault Payload × World) : Except Fault Payload × World :=
  let reported := s.report answered
  (reported.1, if s.instrument then reported.2.closeSpan (.stack s.id) else reported.2)

/-- An invocation is the chain of the steps between the two. -/
theorem invoke_eq (s : Stack) (handler : Handler Payload Payload) (v : Payload) (w : World) :
    s.invoke handler v w =
      s.dismiss (s.around handler StepId.all (s.inward (v, w)).1 (s.inward (v, w)).2) := by
  cases hi : s.instrument <;>
    simp [invoke, wrap, dismiss, inward, spanned, around, wrappers, hi]

/-- The calls of the handler that an invocation makes. -/
def calls (s : Stack) (handler : Handler Payload Payload) (c : Call Payload) : List (Call Payload) :=
  s.reach handler StepId.all (s.inward c)

/-- The calls that enter the step `k` during an invocation. -/
def entries (s : Stack) (handler : Handler Payload Payload) (k : StepId) (c : Call Payload) :
    List (Call Payload) :=
  s.reach (s.around handler (k :: k.later)) k.earlier (s.inward c)

/-- The calls that enter the middleware at place `j` of the step `k` during an
invocation. -/
def visits (s : Stack) (handler : Handler Payload Payload) (k : StepId) (j : Nat)
    (c : Call Payload) : List (Call k.Input) :=
  let ms := (s.step k).members.order
  let rest := within (k.outward (s.around handler k.later)) (ms.drop j)
  (s.entries handler k c).flatMap fun c => arrivals rest (ms.take j) ((s.step k).inward c)

end Stack

end OpStack
