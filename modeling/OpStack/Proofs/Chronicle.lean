import OpStack.Proofs.Arrivals

/-!
# OpStack.Proofs.Chronicle

What happens during an invocation of a chain, in order.  A `Moment` is one thing that
happens: what it is (`Deed`), which invocations of stacks and steps it happens inside of
(`Frame`), and the state right after it.

A `Narrated` handler comes with the moments of each of its calls.  Chains are put together
from three parts, and so are their stories:

* `Narrated.around` — a middleware around the next handler, told by `Behaviour.story`;
* `Narrated.carried` — a handler on other envelopes, where nothing happens;
* `Narrated.framed` — an invocation of a stack or a step around its inner chain.

`narration t layers` is the narrated form of `chain t.handler layers`
(`narration_handler`).  What the three parts keep holds of every such chain
(`Passed.narration`).  The story of a run accounts for its whole state: each deed turns the
state before it into the state after it (`follows_narration`).
-/

namespace OpStack

variable {I O J P α β : Type}

/-- The failure, if the answer is one. -/
def fault? : Except Fault α → Option Fault
  | .ok _ => none
  | .error e => some e

@[simp] theorem fault?_ok (a : α) : fault? (.ok a) = none := rfl

@[simp] theorem fault?_error (e : Fault) : fault? (.error e : Except Fault α) = some e := rfl

/-- The answer fails as before, whatever is made of a success. -/
@[simp] theorem fault?_map (f : α → β) (answer : Except Fault α) :
    fault? (answer.map f) = fault? answer := by
  cases answer <;> rfl

/-! ## Frames -/

/-- An invocation of a stack or of a step. -/
inductive Frame where
  | stack (id : String) (instrument : Bool)
  /-- The step has so many middleware and draws a request under the key, if there is one. -/
  | step (id : StepId) (instrument : Bool) (members : Nat) (key : Option Nat)
  deriving DecidableEq, Repr

namespace Frame

def span? : Frame → Option Span
  | stack id instrument => if instrument then some (.stack id) else none
  | step id instrument _ _ => if instrument then some (.step id) else none

/-- The spans of the instrumented ones, in order. -/
def spans (fs : List Frame) : List Span := fs.filterMap span?

@[simp] theorem spans_nil : spans [] = [] := rfl

/-- Spans of frames inside each other. -/
@[simp] theorem spans_append (fs gs : List Frame) : spans (fs ++ gs) = spans fs ++ spans gs :=
  List.filterMap_append

theorem spans_singleton (f : Frame) : spans [f] = f.span?.toList := by
  cases h : f.span? <;> simp [spans, h]

def stack? : Frame → Option String
  | stack id _ => some id
  | step .. => none

end Frame

variable [Payloads]

/-- A request is made under the key. -/
def World.drawUnder (w : World) (key : Nat) : World :=
  { w with drawn := fun k => if k = key then w.drawn k + 1 else w.drawn k }

namespace Frame

def openSpan (f : Frame) (w : World) : World :=
  match f.span? with
  | some s => w.openSpan s
  | none => w

def closeSpan (f : Frame) (w : World) : World :=
  match f.span? with
  | some s => w.closeSpan s
  | none => w

/-- The state inside, from the one outside. -/
def enter : Frame → World → World
  | stack id instrument, w => (stack id instrument).openSpan w
  | step id instrument members none, w =>
    ((step id instrument members none).openSpan w).tell (.stepStarted id members)
  | step id instrument members (some key), w =>
    ((step id instrument members (some key)).openSpan (w.drawUnder key)).tell
      (.stepStarted id members)

/-- The state outside, from the one inside. -/
def leave : Frame → Option Fault → World → World
  | stack id instrument, some e, w =>
    (stack id instrument).closeSpan (w.tell (.stackFailed id e.message))
  | f, _, w => f.closeSpan w

end Frame

/-- The key that the step draws a request under. -/
def StepId.key? : (k : StepId) → k.Source → Option Nat
  | serialize, source => some source.key
  | init, _ | build, _ | finalize, _ | deserialize, _ => none

def Step.frame {k : StepId} (s : Step k) : Frame :=
  .step k s.instrument s.members.size (k.key? s.source)

def Stack.frame (s : Stack) : Frame := .stack s.id s.instrument

/-- Going into a step is entering its frame. -/
theorem Step.inward_snd {k : StepId} (s : Step k) (c : Call Payload) :
    (s.inward c).2 = s.frame.enter c.2 := by
  cases k <;> cases hi : s.instrument <;>
    simp [inward, frame, StepId.key?, StepId.enter, Frame.enter, Frame.openSpan, Frame.span?,
      hi] <;>
    rfl

/-- Going out of a step is leaving its frame, with the failure that is answered. -/
theorem Step.dismiss_eq {k : StepId} (s : Step k) (answered : Except Fault k.Output × World) :
    s.dismiss answered =
      (answered.1.map k.exit, s.frame.leave (fault? answered.1) answered.2) := by
  cases hi : s.instrument <;>
    simp [dismiss, frame, Frame.leave, Frame.closeSpan, Frame.span?, hi]

/-- Going into a stack is entering its frame. -/
theorem Stack.inward_eq (s : Stack) (c : Call Payload) : s.inward c = (c.1, s.frame.enter c.2) := by
  cases hi : s.instrument <;> simp [inward, frame, Frame.enter, Frame.openSpan, Frame.span?, hi]

/-- Going out of a stack is leaving its frame, with the failure that is answered. -/
theorem Stack.dismiss_eq (s : Stack) (answered : Except Fault Payload × World) :
    s.dismiss answered = (answered.1, s.frame.leave (fault? answered.1) answered.2) := by
  obtain ⟨answer, w⟩ := answered
  cases answer <;> cases hi : s.instrument <;>
    simp [dismiss, report, frame, Frame.leave, Frame.closeSpan, Frame.span?, hi]

/-! ## Moments -/

/-- Something that happens during an invocation. -/
inductive Deed where
  | entered (f : Frame)
  | left (f : Frame) (fault : Option Fault)
  /-- A behaviour does something to the context with the number, to the log or to the trace. -/
  | did (i : Nat) (e : Effect)
  /-- A behaviour calls the next handler and hands on the context with the number. -/
  | called (i : Nat)
  /-- The call came back, perhaps with a failure, to a behaviour that was given the context with
  the number. -/
  | resumed (i : Nat) (fault : Option Fault)
  /-- A behaviour ends with a failure of its own. -/
  | raised (e : Fault)
  /-- A behaviour ends with the failure that its last call came back with, and has done
  nothing since. -/
  | forwarded (e : Fault)

namespace Deed

/-- What the deed makes of the state. -/
def apply : Deed → World → World
  | entered f, w => f.enter w
  | left f fault, w => f.leave fault w
  | did i e, w => (w.lend (some i) e.apply).2
  | called i, w | resumed i _, w => w.offer (some i)
  | raised _, w | forwarded _, w => w

/-- The failure that the deed tells of. -/
def fault? : Deed → Option Fault
  | left _ fault | resumed _ fault => fault
  | raised e | forwarded e => some e
  | entered _ | did .. | called _ => none

/-- The deed takes the failure outward: nobody does anything, calls anybody or raises
another failure. -/
def Unwinds (e : Fault) : Deed → Prop
  | left _ fault | resumed _ fault => fault = some e
  | forwarded e' => e' = e
  | entered _ | did .. | called _ | raised _ => False

end Deed

/-- One thing that happens. -/
structure Moment where
  /-- The invocations around whoever does it, outermost first. -/
  place : List Frame
  deed : Deed
  /-- The state right after it. -/
  world : World

/-- The failure of a finished behaviour, if it is one: raised, or forwarded from the last call. -/
def Behaviour.ending (place : List Frame) (pending : Option Fault) (w : World) :
    Except Fault α → List Moment
  | .ok _ => []
  | .error e => [⟨place, if pending = some e then .forwarded e else .raised e, w⟩]

/-! ## Narrated handlers -/

/-- A handler with what happens when it is called inside some invocations. -/
structure Narrated (I O : Type) where
  handler : Handler I O
  story : List Frame → Call I → List Moment

/-- What happens while a behaviour runs.  `pending` is the failure that its last call came
back with, if it has done nothing since. -/
def Behaviour.story (next : Narrated I O) (place : List Frame) :
    Behaviour I O α → Option Fault → World → List Moment
  | finish result, pending, w => ending place pending w result
  | callOn c input resume, _, w =>
    let handed := w.offer c
    let answered := w.lend c (next.handler input)
    ⟨place, .called handed.hand, handed⟩ :: (next.story place (input, handed) ++
      ⟨place, .resumed w.hand (fault? answered.1), answered.2⟩ ::
        (resume answered.1).story next place (fault? answered.1) answered.2)
  | actOn c e resume, _, w =>
    let applied := w.lend c e.apply
    ⟨place, .did (w.offer c).hand e, applied.2⟩ ::
      (resume applied.1).story next place none applied.2

namespace Narrated

def around (next : Narrated I O) (m : Middleware I O) : Narrated I O where
  handler := m.wrap next.handler
  story place c := (m.body c.1).story next place none c.2

/-- The handler on other envelopes. -/
def carried (next : Narrated I O) (forward : J → I) (complete : O → P) : Narrated J P where
  handler i w :=
    let answered := next.handler (forward i) w
    (answered.1.map complete, answered.2)
  story place c := next.story place (forward c.1, c.2)

/-- The handler inside a frame. -/
def framed (inner : Narrated J P) (f : Frame) (into : Call Payload → J) (exit : P → Payload) :
    Narrated Payload Payload where
  handler v w :=
    let answered := inner.handler (into (v, w)) (f.enter w)
    (answered.1.map exit, f.leave (fault? answered.1) answered.2)
  story place c :=
    let answered := inner.handler (into c) (f.enter c.2)
    ⟨place, .entered f, f.enter c.2⟩ ::
      (inner.story (place ++ [f]) (into c, f.enter c.2) ++
        [⟨place, .left f (fault? answered.1), f.leave (fault? answered.1) answered.2⟩])

/-- The handler that is never called. -/
def nowhere : Narrated Empty Empty := ⟨nofun, nofun⟩

end Narrated

def Terminal.narrated (t : Terminal) : Narrated Payload Payload where
  handler := t.handler
  story place c := (t c.1).story .nowhere place none c.2

def Step.narrate {k : StepId} (s : Step k) (next : Narrated Payload Payload) : Narrated Payload Payload :=
  (s.members.order.foldr (fun m t => t.around m) (next.carried k.forward k.complete)).framed
    s.frame (fun c => (s.inward c).1) k.exit

def Stack.narrate (s : Stack) (next : Narrated Payload Payload) : Narrated Payload Payload :=
  (StepId.all.foldr (fun k t => (s.step k).narrate t) next).framed s.frame Prod.fst fun v => v

def Layer.narrate (next : Narrated Payload Payload) : Layer → Narrated Payload Payload
  | plain m => next.around m
  | step _ s => s.narrate next
  | stack s => s.narrate next

/-- The chain of the layers around the terminal. -/
def narration (t : Terminal) (layers : List Layer) : Narrated Payload Payload :=
  layers.foldr (fun l next => l.narrate next) t.narrated

/-! ### The handlers are those of the chain -/

/-- To narrate a list of middleware does not change what it does. -/
theorem handler_foldr_around (ms : List (Middleware I O)) (next : Narrated I O) :
    (ms.foldr (fun m t => t.around m) next).handler = within next.handler ms := by
  induction ms with
  | nil => rfl
  | cons m ms ih => rw [List.foldr_cons, Narrated.around, ih, within_cons]

/-- To narrate a step does not change what it does. -/
theorem Step.handler_narrate {k : StepId} (s : Step k) (next : Narrated Payload Payload) :
    (s.narrate next).handler = s.wrap next.handler := by
  funext v w
  have hchain := handler_foldr_around s.members.order (next.carried k.forward k.complete)
  rw [wrap_eq, dismiss_eq, inward_snd, narrate, Narrated.framed, hchain]
  rfl

/-- To narrate a stack does not change what it does. -/
theorem Stack.handler_narrate (s : Stack) (next : Narrated Payload Payload) :
    (s.narrate next).handler = s.wrap next.handler := by
  have haround : ∀ ks : List StepId,
      (ks.foldr (fun k t => (s.step k).narrate t) next).handler = s.around next.handler ks := by
    intro ks
    induction ks with
    | nil => rfl
    | cons k ks ih => rw [List.foldr_cons, Step.handler_narrate, ih, around_cons]
  have hid : ∀ answer : Except Fault Payload, answer.map (fun v => v) = answer := by
    intro answer
    cases answer <;> rfl
  funext v w
  show _ = s.invoke next.handler v w
  rw [invoke_eq, dismiss_eq, inward_eq, narrate, Narrated.framed, haround]
  exact Prod.ext (hid _) rfl

/-- To narrate a layer does not change what it does. -/
theorem Layer.handler_narrate (l : Layer) (next : Narrated Payload Payload) :
    (l.narrate next).handler = l.wrap next.handler := by
  cases l with
  | plain m => rfl
  | step k s => exact s.handler_narrate next
  | stack s => exact s.handler_narrate next

/-- The narrated chain is the chain itself. -/
theorem narration_handler (t : Terminal) (layers : List Layer) :
    (narration t layers).handler = chain t.handler layers := by
  induction layers with
  | nil => rfl
  | cons l layers ih =>
      rw [narration, List.foldr_cons, ← narration, Layer.handler_narrate, ih, chain, chain,
        List.map_cons, decorate_cons]

/-! ## What the parts keep holds of the chain -/

/-- The invocations that a call of the layer makes, one inside the other. -/
def Layer.frames : Layer → List Frame
  | plain _ => []
  | step _ s => [s.frame]
  | stack s => s.frame :: StepId.all.map fun k => (s.step k).frame

/-- All middleware of the layer are of a kind. -/
def Layer.All (q : ∀ {I O : Type}, Middleware I O → Prop) : Layer → Prop
  | plain m => q m
  | step _ s => ∀ m ∈ s.members.order, q m
  | stack s => ∀ k, ∀ m ∈ (s.step k).members.order, q m

/-- A property of narrated handlers, for the frames that their calls open one inside the
other, which is kept by all parts if the middleware are of a kind. -/
structure Passed (q : ∀ {I O : Type}, Middleware I O → Prop)
    (p : ∀ {I O : Type}, List Frame → Narrated I O → Prop) : Prop where
  around : ∀ {I O : Type} {fs : List Frame} {next : Narrated I O} (m : Middleware I O),
    q m → p fs next → p fs (next.around m)
  carried : ∀ {I O J P : Type} {fs : List Frame} {next : Narrated I O} (forward : J → I)
    (complete : O → P), p fs next → p fs (next.carried forward complete)
  framed : ∀ {J P : Type} {fs : List Frame} {inner : Narrated J P} (f : Frame)
    (into : Call Payload → J) (exit : P → Payload), p fs inner →
      p (f :: fs) (inner.framed f into exit)

/-- Such a property that holds of all terminals. -/
structure Kept (q : ∀ {I O : Type}, Middleware I O → Prop)
    (p : ∀ {I O : Type}, List Frame → Narrated I O → Prop) : Prop extends Passed q p where
  terminal : ∀ t : Terminal, p [] t.narrated

namespace Passed

variable {q : ∀ {I O : Type}, Middleware I O → Prop}
  {p : ∀ {I O : Type}, List Frame → Narrated I O → Prop} {fs : List Frame}

/-- What passes one middleware passes a list of them. -/
theorem members (h : Passed q p) {next : Narrated I O} (hnext : p fs next)
    {ms : List (Middleware I O)} (hms : ∀ m ∈ ms, q m) :
    p fs (ms.foldr (fun m t => t.around m) next) := by
  induction ms with
  | nil => exact hnext
  | cons m ms ih =>
      have hrest := ih fun m' hm' => hms m' (List.mem_cons_of_mem m hm')
      exact h.around m (hms m List.mem_cons_self) hrest

theorem step (h : Passed q p) {next : Narrated Payload Payload} (hnext : p fs next) {k : StepId}
    (s : Step k) (hs : ∀ m ∈ s.members.order, q m) : p (s.frame :: fs) (s.narrate next) :=
  h.framed _ _ _ (h.members (h.carried _ _ hnext) hs)

/-- What passes the five steps passes the stack. -/
theorem stack (h : Passed q p) {next : Narrated Payload Payload} (hnext : p fs next) (s : Stack)
    (hs : ∀ k, ∀ m ∈ (s.step k).members.order, q m) :
    p (Layer.frames (.stack s) ++ fs) (s.narrate next) := by
  have hsteps : ∀ ks : List StepId,
      p (ks.map (fun k => (s.step k).frame) ++ fs)
        (ks.foldr (fun k t => (s.step k).narrate t) next) := by
    intro ks
    induction ks with
    | nil => exact hnext
    | cons k ks ih => exact h.step ih (s.step k) (hs k)
  exact h.framed _ _ _ (hsteps StepId.all)

/-- What passes all of these passes every kind of layer. -/
theorem layer (h : Passed q p) {next : Narrated Payload Payload} (hnext : p fs next) {l : Layer}
    (hl : l.All q) : p (l.frames ++ fs) (l.narrate next) := by
  cases l with
  | plain m => exact h.around m hl hnext
  | step k s => exact h.step hnext s hl
  | stack s => exact h.stack hnext s hl

/-- What the parts keep holds of a chain if it holds of the terminal. -/
theorem narration (h : Passed q p) {t : Terminal} (ht : p [] t.narrated) {layers : List Layer}
    (hlayers : ∀ l ∈ layers, l.All q) :
    p (layers.flatMap Layer.frames) (narration t layers) := by
  induction layers with
  | nil => exact ht
  | cons l layers ih =>
      have hrest := ih fun l' hl' => hlayers l' (List.mem_cons_of_mem l hl')
      exact h.layer hrest (hlayers l List.mem_cons_self)

end Passed

/-- What all layers keep, and a terminal has, holds of the whole chain. -/
theorem Kept.narration {q : ∀ {I O : Type}, Middleware I O → Prop}
    {p : ∀ {I O : Type}, List Frame → Narrated I O → Prop} (h : Kept q p) (t : Terminal)
    {layers : List Layer} (hlayers : ∀ l ∈ layers, l.All q) :
    p (layers.flatMap Layer.frames) (OpStack.narration t layers) :=
  h.toPassed.narration (h.terminal t) hlayers

/-- What the parts keep for middleware of any kind holds of every chain. -/
theorem Kept.always {p : ∀ {I O : Type}, List Frame → Narrated I O → Prop}
    (h : Kept (fun _ => True) p) (t : Terminal) (layers : List Layer) :
    p (layers.flatMap Layer.frames) (OpStack.narration t layers) := by
  refine h.narration t fun l _ => ?_
  cases l with
  | plain m => trivial
  | step k s => exact fun _ _ => trivial
  | stack s => exact fun _ _ _ => trivial

/-! ## The story accounts for the state -/

/-- The moments lead from one state to the other: each deed makes the state after it of the
one before it. -/
def Follows (w : World) : List Moment → World → Prop
  | [], w' => w' = w
  | m :: ms, w' => m.world = m.deed.apply w ∧ Follows m.world ms w'

namespace Follows

/-- A run is cut wherever its moments are. -/
theorem append_iff {w w' : World} {ms ns : List Moment} :
    Follows w (ms ++ ns) w' ↔ ∃ u, Follows w ms u ∧ Follows u ns w' := by
  induction ms generalizing w with
  | nil => exact ⟨fun h => ⟨w, rfl, h⟩, fun ⟨u, hu, h⟩ => hu ▸ h⟩
  | cons m ms ih =>
      constructor
      · rintro ⟨hm, hrest⟩
        obtain ⟨u, hms, hns⟩ := ih.mp hrest
        exact ⟨u, ⟨hm, hms⟩, hns⟩
      · rintro ⟨u, ⟨hm, hms⟩, hns⟩
        exact ⟨hm, ih.mpr ⟨u, hms, hns⟩⟩

/-- The state at a moment, and what follows it. -/
theorem split {w w' : World} {before after : List Moment} {m : Moment}
    (h : Follows w (before ++ m :: after) w') :
    Follows w (before ++ [m]) m.world ∧ Follows m.world after w' := by
  obtain ⟨u, hbefore, hm, hafter⟩ := append_iff.mp h
  exact ⟨append_iff.mpr ⟨u, hbefore, hm, rfl⟩, hafter⟩

end Follows

/-! ### The context at hand -/

/-- Whoever lends another context has its own at hand afterwards. -/
theorem World.hand_lend (w : World) {c : Option Nat} {body : World → α × World}
    (hbody : ∀ u, (body u).2.hand = u.hand) : (w.lend c body).2.hand = w.hand := by
  cases c with
  | none => exact hbody w
  | some i => rfl

/-- An effect leaves the same context at hand. -/
theorem Effect.hand_apply (e : Effect) (w : World) : (e.apply w).2.hand = w.hand := by
  cases e <;> rfl

/-- To name the context at hand is to name none. -/
theorem World.lend_hand (w : World) {body : World → α × World}
    (hbody : ∀ u, (body u).2.hand = u.hand) (c : Option Nat) :
    (w.lend (some (w.offer c).hand) body).2 = (w.lend c body).2 := by
  cases c with
  | none =>
      have hhand : (body w).2.offer (some w.hand) = (body w).2 := by
        rw [← hbody w]
        rfl
      exact hhand
  | some i => rfl

/-- The story of every call accounts for the state that the call leaves, and the caller gets back
the context that it handed on. -/
structure Narrated.Faithful (t : Narrated I O) : Prop where
  follows (place : List Frame) (c : Call I) : Follows c.2 (t.story place c) (t.handler c.1 c.2).2
  hand (input : I) (w : World) : (t.handler input w).2.hand = w.hand

/-- A behaviour leaves the same context at hand, if the next handler does. -/
theorem Behaviour.hand_run {next : Handler I O} (hnext : ∀ input w, (next input w).2.hand = w.hand)
    (b : Behaviour I O α) (w : World) : (b.run next w).2.hand = w.hand := by
  induction b generalizing w with
  | finish result => rfl
  | callOn c input resume ih => rw [run, ih, w.hand_lend (hnext input)]
  | actOn c e resume ih => rw [run, ih, w.hand_lend e.hand_apply]

/-- The story of a behaviour is what it does to the state, moment by moment. -/
theorem Behaviour.follows_story {next : Narrated I O} (hnext : next.Faithful)
    (place : List Frame) (b : Behaviour I O α) (pending : Option Fault) (w : World) :
    Follows w (b.story next place pending w) (b.run next.handler w).2 := by
  induction b generalizing pending w with
  | finish result =>
      cases result with
      | ok a => rfl
      | error e =>
          refine ⟨?_, rfl⟩
          split <;> rfl
  | callOn c input resume ih =>
      have hcalled : w.offer c = w.offer (some (w.offer c).hand) := by cases c <;> rfl
      have hresumed : (w.lend c (next.handler input)).2 =
          (next.handler input (w.offer c)).2.offer (some w.hand) := by
        cases c with
        | none =>
            rw [← hnext.hand input w]
            rfl
        | some i => rfl
      exact ⟨hcalled, Follows.append_iff.mpr
        ⟨_, hnext.follows place (input, w.offer c), hresumed, ih _ _ _⟩⟩
  | actOn c e resume ih => exact ⟨(w.lend_hand e.hand_apply c).symm, ih _ _ _⟩

theorem Frame.hand_enter (f : Frame) (w : World) : (f.enter w).hand = w.hand := by
  cases f with
  | stack id instrument => cases instrument <;> rfl
  | step id instrument members key => cases key <;> cases instrument <;> rfl

theorem Frame.hand_leave (f : Frame) (fault : Option Fault) (w : World) :
    (f.leave fault w).hand = w.hand := by
  cases f with
  | stack id instrument => cases fault <;> cases instrument <;> rfl
  | step id instrument members key => cases instrument <;> rfl

namespace Narrated.Faithful

/-- A middleware is faithful around whatever is. -/
theorem around {next : Narrated I O} (hnext : next.Faithful) (m : Middleware I O) :
    (next.around m).Faithful where
  follows place c := Behaviour.follows_story hnext place (m.body c.1) none c.2
  hand input := (m.body input).hand_run hnext.hand

theorem carried {next : Narrated I O} (hnext : next.Faithful) (forward : J → I)
    (complete : O → P) : (next.carried forward complete).Faithful where
  follows place c := hnext.follows place (forward c.1, c.2)
  hand input := hnext.hand (forward input)

/-- So is a frame. -/
theorem framed {inner : Narrated J P} (hinner : inner.Faithful) (f : Frame)
    (into : Call Payload → J) (exit : P → Payload) : (inner.framed f into exit).Faithful where
  follows place c := ⟨rfl, Follows.append_iff.mpr
    ⟨_, hinner.follows (place ++ [f]) (into c, f.enter c.2), rfl, rfl⟩⟩
  hand _ w := by rw [Narrated.framed, Frame.hand_leave, hinner.hand, Frame.hand_enter]

end Narrated.Faithful

theorem Narrated.faithful_nowhere : nowhere.Faithful := ⟨fun _ c => c.1.elim, nofun⟩

theorem Terminal.faithful (t : Terminal) : t.narrated.Faithful where
  follows place c := Behaviour.follows_story Narrated.faithful_nowhere place (t c.1) none c.2
  hand input := (t input).hand_run nofun

/-- Every layer is faithful. -/
theorem kept_faithful : Kept (fun _ => True) fun _ t => t.Faithful where
  terminal t := t.faithful
  around m _ hnext := hnext.around m
  carried forward complete hnext := hnext.carried forward complete
  framed f into exit hinner := hinner.framed f into exit

/-- The story of a chain is what it does to the state. -/
theorem faithful_narration (t : Terminal) (layers : List Layer) :
    (narration t layers).Faithful :=
  kept_faithful.always t layers

/-- The story of an invocation leads from its first state to its last. -/
theorem follows_narration (t : Terminal) (layers : List Layer) (place : List Frame)
    (c : Call Payload) :
    Follows c.2 ((narration t layers).story place c) (chain t.handler layers c.1 c.2).2 := by
  rw [← narration_handler]
  exact (faithful_narration t layers).follows place c

/-- An invocation leaves the context at hand that it was given. -/
theorem hand_chain (t : Terminal) (layers : List Layer) (v : Payload) (w : World) :
    (chain t.handler layers v w).2.hand = w.hand := by
  rw [← narration_handler]
  exact (faithful_narration t layers).hand v w

end OpStack
