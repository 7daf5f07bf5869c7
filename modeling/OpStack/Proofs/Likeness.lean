import Mathlib.Data.List.Forall2
import OpStack.Proofs.Chain.Unwinding

/-!
# OpStack.Proofs.Likeness

Two runs side by side.  A `Likeness` relates the states of one run to those of another: the
effects that it allows tell both runs the same and lead from like states to like ones.

Two handlers are *alike* if in like states they give the same answer and leave like states.
All parts that a chain is put together from keep this:

* `agree_run` — a behaviour that does what is allowed, around handlers that are alike;
* `wraps_middleware`, `wraps_step`, `wraps_stack` — the layers, if the likeness goes into the
  frames of the two runs and out of them again (`Likeness.Frames`);
* `alike_chain` — a whole chain beside itself.

The calls that reach a handler inside are alike as well: `passes_middleware` for a list of
middleware, `agree_stackCalls` for a stack.
-/

namespace OpStack

variable [Payloads] {I O α : Type}

/-! ## What a behaviour does -/

/-- All effects of the behaviour are of a kind, whatever it is told on the way. -/
def Behaviour.Does (p : Effect → Prop) : Behaviour I O α → Prop
  | finish _ => True
  | callOn _ _ resume => ∀ answer, (resume answer).Does p
  | actOn _ e resume => p e ∧ ∀ a, (resume a).Does p

def Middleware.Does (p : Effect → Prop) (m : Middleware I O) : Prop :=
  ∀ input, (m.body input).Does p

def Terminal.Does (p : Effect → Prop) (t : Terminal) : Prop := ∀ v, (t v).Does p

/-- If all effects are of a kind, so are those of every behaviour. -/
theorem Behaviour.does_of_forall {p : Effect → Prop} (hp : ∀ e, p e) (b : Behaviour I O α) :
    b.Does p := by
  induction b with
  | finish result => trivial
  | callOn c input resume ih => exact ih
  | actOn c e resume ih => exact ⟨hp e, ih⟩

/-! ## Likenesses -/

/-- What two runs have come to: the same on the left, and states that are related. -/
structure Agree {σ : Type} (rel : σ → σ → Prop) (one other : α × σ) : Prop where
  same : other.1 = one.1
  rel : rel one.2 other.2

/-- A relation of the states of two runs, by the frames of the first that are open around them.
Requests were made equally often in both, and the same context is at hand, whichever is
offered.  The effects that are allowed say the same in like states and keep them alike. -/
structure Likeness where
  Rel : List Frame → World → World → Prop
  Allows : Effect → Prop
  drawn {place : List Frame} {w w' : World} : Rel place w w' → w'.drawn = w.drawn
  hand {place : List Frame} {w w' : World} : Rel place w w' → w'.hand = w.hand
  offer {place : List Frame} {w w' : World} (c : Option Nat) :
    Rel place w w' → Rel place (w.offer c) (w'.offer c)
  apply {place : List Frame} {w w' : World} (e : Effect) :
    Allows e → Rel place w w' → Agree (Rel place) (e.apply w) (e.apply w')

namespace Likeness

variable (L : Likeness)

/-- Called alike, the handlers answer alike. -/
def Alike (one other : Handler I O) : Prop :=
  ∀ ⦃place : List Frame⦄ ⦃c c' : Call I⦄, Agree (L.Rel place) c c' →
    Agree (L.Rel place) (one c.1 c.2) (other c'.1 c'.2)

/-- Around handlers that are alike, the wrappers make handlers that are alike. -/
def Wraps (one other : Wrapper I O) : Prop :=
  ∀ ⦃next next' : Handler I O⦄, L.Alike next next' → L.Alike (one next) (other next')

/-- The likeness goes into the frames and out of them. -/
structure Frames (f f' : Frame) : Prop where
  enter {place : List Frame} {w w' : World} :
    L.Rel place w w' → L.Rel (place ++ [f]) (f.enter w) (f'.enter w')
  leave {place : List Frame} {w w' : World} (fault : Option Fault) :
    L.Rel (place ++ [f]) w w' → L.Rel place (f.leave fault w) (f'.leave fault w')

variable {L} {place : List Frame}

/-! ### Behaviours and lists of middleware -/

/-- What is alike for like states is alike with another context at hand, and leaves the own
context at hand again in both runs. -/
theorem agree_lend {body body' : World → α × World} {w w' : World} (c : Option Nat)
    (h : L.Rel place w w')
    (hbody : ∀ {u u' : World}, L.Rel place u u' → Agree (L.Rel place) (body u) (body' u')) :
    Agree (L.Rel place) (w.lend c body) (w'.lend c body') := by
  have hdone := hbody (L.offer c h)
  refine ⟨hdone.same, ?_⟩
  rw [World.lend, World.lend, L.hand h]
  exact L.offer (c.map fun _ => w.hand) hdone.rel

/-- Calls of handlers that are alike are alike, with whichever context. -/
theorem agree_call {next next' : Handler I O} (hnext : L.Alike next next') {w w' : World}
    (h : L.Rel place w w') (c : Option Nat) (input : I) :
    Agree (L.Rel place) (w.lend c (next input)) (w'.lend c (next' input)) := by
  refine agree_lend c h fun {u u'} hu => ?_
  have hcall : Agree (L.Rel place) (input, u) (input, u') := ⟨rfl, hu⟩
  exact hnext hcall

/-- Behaviours that do what is allowed, around handlers that are alike, are alike. -/
theorem agree_run {next next' : Handler I O} (hnext : L.Alike next next') {b : Behaviour I O α}
    (hb : b.Does L.Allows) {w w' : World} (h : L.Rel place w w') :
    Agree (L.Rel place) (b.run next w) (b.run next' w') := by
  induction b generalizing w w' with
  | finish result => exact ⟨rfl, h⟩
  | callOn c input resume ih =>
      have hanswered := agree_call hnext h c input
      rw [Behaviour.run, Behaviour.run, hanswered.same]
      exact ih _ (hb _) hanswered.rel
  | actOn c e resume ih =>
      have happlied := agree_lend c h (L.apply e hb.1)
      rw [Behaviour.run, Behaviour.run, happlied.same]
      exact ih _ (hb.2 _) happlied.rel

/-- A middleware that does what is allowed keeps handlers alike. -/
theorem wraps_middleware {m : Middleware I O} (hm : m.Does L.Allows) : L.Wraps m.wrap m.wrap := by
  intro next next' hnext place c c' hc
  rw [hc.same]
  exact agree_run hnext (hm c.1) hc.rel

/-- Wrappers inside each other keep handlers alike, if each one does. -/
theorem wraps_decorate {ws ws' : List (Wrapper I O)} (hws : List.Forall₂ L.Wraps ws ws') :
    L.Wraps (decorate · ws) (decorate · ws') := by
  intro next next' hnext
  induction hws with
  | nil => exact hnext
  | cons hw _ ih => exact hw ih

theorem wraps_within {ms : List (Middleware I O)} (hms : ∀ m ∈ ms, m.Does L.Allows) :
    L.Wraps (within · ms) (within · ms) := by
  refine wraps_decorate ?_
  rw [List.forall₂_map_left_iff, List.forall₂_map_right_iff, List.forall₂_same]
  exact fun m hm => wraps_middleware (hms m hm)

/-! ### Steps, stacks and chains -/

/-- Going out of a step keeps handlers alike. -/
theorem alike_outward (k : StepId) {next next' : Handler Payload Payload}
    (hnext : L.Alike next next') : L.Alike (k.outward next) (k.outward next') := by
  intro place c c' hc
  have hcall : Agree (L.Rel place) (k.forward c.1, c.2) (k.forward c'.1, c'.2) :=
    ⟨congrArg k.forward hc.same, hc.rel⟩
  have hanswered := hnext hcall
  exact ⟨congrArg (Except.map k.complete) hanswered.same, hanswered.rel⟩

section Step

variable {k : StepId} {s s' : Step k}

/-- Going into a step leads into its frame, with the same request from the same source. -/
theorem agree_inward (hsource : s'.source = s.source) (hframe : L.Frames s.frame s'.frame)
    {c c' : Call Payload} (hc : Agree (L.Rel place) c c') :
    Agree (L.Rel (place ++ [s.frame])) (s.inward c) (s'.inward c') where
  same := by
    cases k with
    | serialize =>
        have hdrawn := L.drawn hc.rel
        show Serialization.mk c'.1 (s'.source.make (c'.2.drawn s'.source.key)) =
          ⟨c.1, s.source.make (c.2.drawn s.source.key)⟩
        rw [hsource, hc.same, hdrawn]
    | init => exact congrArg Parameters.mk hc.same
    | build | finalize | deserialize => exact congrArg Request.mk hc.same
  rel := by
    rw [s.inward_snd, s'.inward_snd]
    exact hframe.enter hc.rel

/-- Going out of a step leads out of its frame, with the same failure. -/
theorem agree_dismiss (hframe : L.Frames s.frame s'.frame)
    {answered answered' : Except Fault k.Output × World}
    (h : Agree (L.Rel (place ++ [s.frame])) answered answered') :
    Agree (L.Rel place) (s.dismiss answered) (s'.dismiss answered') := by
  rw [s.dismiss_eq, s'.dismiss_eq, h.same]
  exact ⟨rfl, hframe.leave (fault? answered.1) h.rel⟩

/-- A step keeps handlers alike, if what it holds does. -/
theorem wraps_step (hsource : s'.source = s.source) (hframe : L.Frames s.frame s'.frame)
    (hchain : L.Wraps (within · s.members.order) (within · s'.members.order)) :
    L.Wraps s.wrap s'.wrap := by
  intro next next' hnext place c c' hc
  rw [s.wrap_eq, s'.wrap_eq]
  exact agree_dismiss hframe (hchain (alike_outward k hnext) (agree_inward hsource hframe hc))

end Step

section Stack

variable {s s' : Stack}

theorem agree_stackInward (hframe : L.Frames s.frame s'.frame) {c c' : Call Payload}
    (hc : Agree (L.Rel place) c c') :
    Agree (L.Rel (place ++ [s.frame])) (s.inward c) (s'.inward c') := by
  rw [s.inward_eq, s'.inward_eq]
  exact ⟨hc.same, hframe.enter hc.rel⟩

theorem agree_stackDismiss (hframe : L.Frames s.frame s'.frame)
    {answered answered' : Except Fault Payload × World}
    (h : Agree (L.Rel (place ++ [s.frame])) answered answered') :
    Agree (L.Rel place) (s.dismiss answered) (s'.dismiss answered') := by
  rw [s.dismiss_eq, s'.dismiss_eq, h.same]
  exact ⟨rfl, hframe.leave (fault? answered.1) h.rel⟩

theorem wraps_around (hsteps : ∀ k, L.Wraps (s.step k).wrap (s'.step k).wrap)
    (ks : List StepId) : L.Wraps (s.around · ks) (s'.around · ks) := by
  refine wraps_decorate ?_
  rw [List.forall₂_map_left_iff, List.forall₂_map_right_iff, List.forall₂_same]
  exact fun k _ => hsteps k

/-- A stack keeps handlers alike, if its steps do. -/
theorem wraps_stack (hframe : L.Frames s.frame s'.frame)
    (hsteps : ∀ k, L.Wraps (s.step k).wrap (s'.step k).wrap) : L.Wraps s.wrap s'.wrap := by
  intro next next' hnext place c c' hc
  show Agree _ (s.invoke next c.1 c.2) (s'.invoke next' c'.1 c'.2)
  rw [s.invoke_eq, s'.invoke_eq]
  exact agree_stackDismiss hframe
    (wraps_around hsteps StepId.all hnext (agree_stackInward hframe hc))

end Stack

/-- Every kind of layer keeps handlers alike. -/
theorem wraps_layer (hframes : ∀ f, L.Frames f f) {l : Layer}
    (hl : l.All (Middleware.Does L.Allows)) : L.Wraps l.wrap l.wrap := by
  have hstep : ∀ {k : StepId} (s : Step k), (∀ m ∈ s.members.order, m.Does L.Allows) →
      L.Wraps s.wrap s.wrap :=
    fun s hs => wraps_step rfl (hframes s.frame) (wraps_within hs)
  cases l with
  | plain m => exact wraps_middleware hl
  | step k s => exact hstep s hl
  | stack s => exact wraps_stack (hframes s.frame) fun k => hstep (s.step k) (hl k)

/-- A terminal that does what is allowed is alike to itself. -/
theorem alike_terminal {t : Terminal} (ht : t.Does L.Allows) : L.Alike t.handler t.handler := by
  intro place c c' hc
  have hnone : ∀ next : Handler Empty Empty, L.Alike next next := fun _ _ c _ _ => c.1.elim
  rw [hc.same]
  exact agree_run (hnone _) (ht c.1) hc.rel

/-- Layers inside each other keep handlers alike. -/
theorem wraps_layers (hframes : ∀ f, L.Frames f f) {layers : List Layer}
    (hlayers : ∀ l ∈ layers, l.All (Middleware.Does L.Allows)) :
    L.Wraps (chain · layers) (chain · layers) := by
  refine wraps_decorate ?_
  rw [List.forall₂_map_left_iff, List.forall₂_map_right_iff, List.forall₂_same]
  exact fun l hl => wraps_layer hframes (hlayers l hl)

/-- Called alike, a chain answers alike. -/
theorem alike_chain (hframes : ∀ f, L.Frames f f) {t : Terminal} (ht : t.Does L.Allows)
    {layers : List Layer} (hlayers : ∀ l ∈ layers, l.All (Middleware.Does L.Allows)) :
    L.Alike (chain t.handler layers) (chain t.handler layers) :=
  wraps_layers hframes hlayers (alike_terminal ht)

/-! ### Calls -/

/-- Calls of a handler that are alike become, behind the lists of middleware, calls that are
alike. -/
def Passes (L : Likeness) (ms ms' : List (Middleware I O)) : Prop :=
  ∀ ⦃handler handler' : Handler I O⦄, L.Alike handler handler' →
    ∀ ⦃place : List Frame⦄ ⦃c c' : Call I⦄, Agree (L.Rel place) c c' →
      List.Forall₂ (Agree (L.Rel place)) (arrivals handler ms c) (arrivals handler' ms' c')

/-- The calls of a behaviour are alike one by one. -/
theorem agree_calls {next next' : Handler I O} (hnext : L.Alike next next')
    {b : Behaviour I O α} (hb : b.Does L.Allows) {w w' : World} (h : L.Rel place w w') :
    List.Forall₂ (Agree (L.Rel place)) (b.calls next w) (b.calls next' w') := by
  induction b generalizing w w' with
  | finish result => exact .nil
  | callOn c input resume ih =>
      have hcall : Agree (L.Rel place) (input, w.offer c) (input, w'.offer c) := ⟨rfl, L.offer c h⟩
      have hanswered := agree_call hnext h c input
      rw [Behaviour.calls, Behaviour.calls, hanswered.same]
      exact .cons hcall (ih _ (hb _) hanswered.rel)
  | actOn c e resume ih =>
      have happlied := agree_lend c h (L.apply e hb.1)
      rw [Behaviour.calls, Behaviour.calls, happlied.same]
      exact ih _ (hb.2 _) happlied.rel

/-- Behind middleware that do what is allowed, calls that are alike arrive alike. -/
theorem passes_middleware {ms : List (Middleware I O)} (hms : ∀ m ∈ ms, m.Does L.Allows) :
    L.Passes ms ms := by
  intro handler handler' hhandler place c c' hc
  induction ms generalizing c c' with
  | nil => exact .cons hc .nil
  | cons m ms ih =>
      have hrest : ∀ m ∈ ms, m.Does L.Allows := fun m' hm' => hms m' (List.mem_cons_of_mem m hm')
      have hcalls := agree_calls (wraps_within hrest hhandler)
        (hms m List.mem_cons_self c.1) hc.rel
      rw [arrivals, arrivals, hc.same]
      exact List.rel_flatMap hcalls fun _ _ h => ih hrest h

/-- The calls that leave a step are alike one by one. -/
theorem agree_stepArrivals {k : StepId} {s s' : Step k} (hsource : s'.source = s.source)
    (hframe : L.Frames s.frame s'.frame) (hmembers : L.Passes s.members.order s'.members.order)
    {next next' : Handler Payload Payload} (hnext : L.Alike next next') {c c' : Call Payload}
    (hc : Agree (L.Rel place) c c') :
    List.Forall₂ (Agree (L.Rel (place ++ [s.frame]))) (s.arrivals next c)
      (s'.arrivals next' c') := by
  have harrivals := hmembers (alike_outward k hnext) (agree_inward hsource hframe hc)
  rw [Step.arrivals, Step.arrivals, List.forall₂_map_left_iff, List.forall₂_map_right_iff]
  exact harrivals.imp fun _ _ h => ⟨congrArg k.forward h.same, h.rel⟩

/-- The calls of a handler inside two stacks that are alike step by step. -/
theorem agree_stackCalls {s s' : Stack} (hframe : L.Frames s.frame s'.frame)
    (hsource : ∀ k, (s'.step k).source = (s.step k).source)
    (hframes : ∀ k, L.Frames (s.step k).frame (s'.step k).frame)
    (hwraps : ∀ k, L.Wraps (within · (s.step k).members.order)
      (within · (s'.step k).members.order))
    (hmembers : ∀ k, L.Passes (s.step k).members.order (s'.step k).members.order)
    {handler handler' : Handler Payload Payload} (hhandler : L.Alike handler handler')
    {c c' : Call Payload} (hc : Agree (L.Rel place) c c') :
    List.Forall₂ (Agree (L.Rel (place ++ Layer.frames (.stack s)))) (s.calls handler c)
      (s'.calls handler' c') := by
  have hreach : ∀ (ks : List StepId) {place : List Frame} {c c' : Call Payload},
      Agree (L.Rel place) c c' →
      List.Forall₂ (Agree (L.Rel (place ++ ks.map fun k => (s.step k).frame)))
        (s.reach handler ks c) (s'.reach handler' ks c') := by
    intro ks
    induction ks with
    | nil =>
        intro place c c' hc
        rw [List.map_nil, List.append_nil]
        exact .cons hc .nil
    | cons k ks ih =>
        intro place c c' hc
        have hsteps := wraps_around fun k => wraps_step (hsource k) (hframes k) (hwraps k)
        have hleft := agree_stepArrivals (hsource k) (hframes k) (hmembers k)
          (hsteps ks hhandler) hc
        rw [List.map_cons, List.append_cons]
        exact List.rel_flatMap hleft fun _ _ h => ih h
  have hall := hreach StepId.all (agree_stackInward hframe hc)
  rwa [List.append_assoc] at hall

end Likeness

end OpStack
