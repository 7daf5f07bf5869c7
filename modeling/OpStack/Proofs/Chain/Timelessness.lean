import OpStack.Invocation
import OpStack.Proofs.Likeness
import OpStack.Value.Source

/-!
# OpStack.Proofs.Chain.Timelessness

Steps, stacks and chains leave deadlines and cancellation to the behaviours.  If none of
these asks for the deadline of a context, or whether it has expired or is cancelled, an
invocation goes the same way whatever the answers would be: `Timeless` relates states that
agree in everything but deadlines and cancellation, and every part of a chain keeps it.

Raising a flag and setting a deadline are allowed, on any context, at any point of the
invocation.
-/

namespace OpStack

section

variable [Payloads]

/-- The effect does not ask for deadline or cancellation. -/
def Effect.Untimed : Effect → Prop
  | isCancelled | isExpired | deadline => False
  | note _ | remark _ | setExtension _ | readExtension _ | writeExtension _ | removeExtension _
  | cancel | setDeadline _ | clone | fresh | exchange _ => True

/-! ## States without their time -/

/-- As many contexts were made, and they hold the same extensions. -/
structure Memory.Timeless (x x' : Memory) : Prop where
  extensions : ∀ i, (x'.contexts i).extensions = (x.contexts i).extensions
  made : x'.made = x.made

namespace Memory.Timeless

variable {x x' : Memory}

/-- A change that sees extensions alone is made alike. -/
theorem alter (h : x.Timeless x') (i : Nat) (f : Context → Context)
    (hf : ∀ {c c' : Context}, c'.extensions = c.extensions →
      (f c').extensions = (f c).extensions) :
    (x.alter i f).Timeless (x'.alter i f) where
  extensions j := by
    dsimp only [Memory.alter]
    split
    · exact hf (h.extensions i)
    · exact h.extensions j
  made := h.made

/-- Contexts with the same extensions can be added to both. -/
theorem add (h : x.Timeless x') {c c' : Context} (hc : c'.extensions = c.extensions) :
    (x.add c).Timeless (x'.add c') where
  extensions j := by
    dsimp only [Memory.add]
    rw [h.made]
    split
    · exact hc
    · exact h.extensions j
  made := congrArg (· + 1) h.made

theorem exchange (h : x.Timeless x') (i j : Nat) :
    (x.exchange i j).Timeless (x'.exchange i j) where
  extensions n := by
    dsimp only [Memory.exchange]
    split
    · exact h.extensions j
    · split
      · exact h.extensions i
      · exact h.extensions n
  made := h.made

end Memory.Timeless

/-- The states agree in everything but deadlines and cancellation. -/
structure World.Timeless (w w' : World) : Prop where
  memory : w.toMemory.Timeless w'.toMemory
  hand : w'.hand = w.hand
  journal : w'.journal = w.journal
  trace : w'.trace = w.trace
  spans : w'.spans = w.spans
  drawn : w'.drawn = w.drawn

namespace World.Timeless

variable {w w' : World}

/-- The context at hand holds the same extensions. -/
theorem context (h : w.Timeless w') : w'.context.extensions = w.context.extensions := by
  rw [Start.context, Start.context, h.hand]
  exact h.memory.extensions w.hand

/-- The same context is offered in both states. -/
theorem offer (c : Option Nat) (h : w.Timeless w') : (w.offer c).Timeless (w'.offer c) := by
  cases c with
  | none => exact h
  | some i => exact ⟨h.memory, rfl, h.journal, h.trace, h.spans, h.drawn⟩

/-- What is done to the contexts does not touch the rest. -/
theorem withMemory (h : w.Timeless w') {x x' : Memory} (hx : x.Timeless x') :
    World.Timeless { w with toMemory := x } { w' with toMemory := x' } :=
  ⟨hx, h.hand, h.journal, h.trace, h.spans, h.drawn⟩

/-- The contexts at hand are changed alike. -/
theorem altered (h : w.Timeless w') (f : Context → Context)
    (hf : ∀ {c c' : Context}, c'.extensions = c.extensions →
      (f c').extensions = (f c).extensions) :
    (w.alter w.hand f).Timeless (w'.alter w'.hand f) := by
  rw [h.hand]
  exact h.memory.alter w.hand f hf

theorem extend (h : w.Timeless w') (f : Extensions → Extensions) :
    (w.extend f).Timeless (w'.extend f) :=
  h.withMemory (h.altered _ fun hc => congrArg f hc)

/-- Both observers write the same record, and the active spans change alike. -/
theorem recorded (h : w.Timeless w') (r : List Span → Record) (turn : List Span → List Span) :
    World.Timeless { w with trace := w.trace ++ [r w.spans], spans := turn w.spans }
      { w' with trace := w'.trace ++ [r w'.spans], spans := turn w'.spans } where
  memory := h.memory
  hand := h.hand
  journal := h.journal
  trace := by rw [h.trace, h.spans]
  spans := congrArg turn h.spans
  drawn := h.drawn

theorem tell (e : Event) (h : w.Timeless w') : (w.tell e).Timeless (w'.tell e) :=
  h.recorded (.event e) id

theorem openSpan (s : Span) (h : w.Timeless w') : (w.openSpan s).Timeless (w'.openSpan s) :=
  h.recorded (.opened s) (· ++ [s])

theorem closeSpan (s : Span) (h : w.Timeless w') : (w.closeSpan s).Timeless (w'.closeSpan s) :=
  h.recorded (fun spans => .closed s spans.dropLast) List.dropLast

/-- What does not ask for time does not see it. -/
theorem agree_apply {e : Effect} (he : e.Untimed) (h : w.Timeless w') :
    Agree World.Timeless (e.apply w) (e.apply w') := by
  have hvalue : ∀ k, w'.context.extensions.value? k = w.context.extensions.value? k :=
    fun k => congrArg (·.value? k) h.context
  cases e with
  | isCancelled | isExpired | deadline => exact he.elim
  | note n =>
      refine ⟨rfl, h.memory, h.hand, ?_, h.trace, h.spans, h.drawn⟩
      exact congrArg (· ++ [n]) h.journal
  | remark r => exact ⟨rfl, h.tell (.remark r)⟩
  | setExtension v => exact ⟨rfl, h.extend (·.setValue v)⟩
  | readExtension k => exact ⟨hvalue k, h⟩
  | writeExtension v => exact ⟨hvalue v.kind, h.extend (·.writeValue v)⟩
  | removeExtension k => exact ⟨hvalue k, h.extend (·.erase k)⟩
  | cancel => exact ⟨rfl, h.withMemory ⟨h.memory.extensions, h.memory.made⟩⟩
  | setDeadline d => exact ⟨rfl, h.withMemory (h.altered _ id)⟩
  | clone => exact ⟨h.memory.made, h.withMemory (h.memory.add rfl)⟩
  | fresh =>
      -- the new context has a flag of its own, which may differ, and no extensions
      have hadded : (w.add { flag := w.families }).Timeless (w'.add { flag := w'.families }) :=
        h.memory.add rfl
      exact ⟨h.memory.made, h.withMemory ⟨hadded.extensions, hadded.made⟩⟩
  | exchange i =>
      have hexchanged : (w.exchange w.hand i).Timeless (w'.exchange w'.hand i) := by
        rw [h.hand]
        exact h.memory.exchange w.hand i
      exact ⟨rfl, h.withMemory hexchanged⟩

theorem opened (f : Frame) (h : w.Timeless w') : (f.openSpan w).Timeless (f.openSpan w') := by
  rw [Frame.openSpan, Frame.openSpan]
  cases f.span? with
  | none => exact h
  | some s => exact h.openSpan s

theorem closed (f : Frame) (h : w.Timeless w') : (f.closeSpan w).Timeless (f.closeSpan w') := by
  rw [Frame.closeSpan, Frame.closeSpan]
  cases f.span? with
  | none => exact h
  | some s => exact h.closeSpan s

/-- Frames are entered alike. -/
theorem enter (f : Frame) (h : w.Timeless w') : (f.enter w).Timeless (f.enter w') := by
  have hdrawn : ∀ key, (w.drawUnder key).Timeless (w'.drawUnder key) := by
    intro key
    refine ⟨h.memory, h.hand, h.journal, h.trace, h.spans, ?_⟩
    rw [World.drawUnder, World.drawUnder, h.drawn]
  cases f with
  | stack id instrument => exact h.opened _
  | step id instrument members key =>
      cases key with
      | none => exact (h.opened _).tell _
      | some key => exact ((hdrawn key).opened _).tell _

/-- Frames are left alike, with the same failure. -/
theorem leave (f : Frame) (fault : Option Fault) (h : w.Timeless w') :
    (f.leave fault w).Timeless (f.leave fault w') := by
  cases f with
  | stack id instrument =>
      cases fault with
      | none => exact h.closed _
      | some e => exact (h.tell _).closed _
  | step id instrument members key => exact h.closed _

end World.Timeless

/-- States that differ in deadlines and cancellation are alike to whoever does not ask. -/
def Likeness.timeless : Likeness where
  Rel _ := World.Timeless
  Allows := Effect.Untimed
  drawn h := h.drawn
  hand h := h.hand
  offer c h := h.offer c
  apply _ he h := h.agree_apply he

/-- No frame asks for the time. -/
theorem Likeness.frames_timeless (f : Frame) : Likeness.timeless.Frames f f :=
  ⟨fun h => h.enter f, fun fault h => h.leave f fault⟩

/-! ## Invocations -/

/-- **Time is left to the behaviours.**  If neither the terminal nor a middleware of a chain
asks for the deadline of a context, or whether it has expired or is cancelled, two invocations
whose contexts hold the same extensions, with any deadlines and any cancellation flags,

1. give the same result or failure and the same log;
2. leave the same extensions in all contexts;
3. make the same requests;
4. are told to the observer alike, record by record. -/
theorem time_unseen (t : Terminal) (layers : List Layer) (ht : t.Does Effect.Untimed)
    (hlayers : ∀ l ∈ layers, l.All (Middleware.Does Effect.Untimed)) (v : Payload) (w : World)
    (s s' : Start) (hhand : s'.hand = s.hand) (hmemory : s.toMemory.Timeless s'.toMemory) :
    let one := invocation (chain t.handler layers) s v w
    let other := invocation (chain t.handler layers) s' v w
    other.1 = one.1 ∧
    other.2.context.extensions = one.2.context.extensions ∧
    one.2.toMemory.Timeless other.2.toMemory ∧
    other.2.drawn = one.2.drawn ∧
    other.2.trace = one.2.trace ∧ other.2.spans = one.2.spans := by
  intro one other
  have hbegin : (w.begin s).Timeless (w.begin s') := ⟨hmemory, hhand, rfl, rfl, rfl, rfl⟩
  have hchain := Likeness.alike_chain Likeness.frames_timeless ht hlayers
  have hcall : Agree (Likeness.timeless.Rel []) (v, w.begin s) (v, w.begin s') := ⟨rfl, hbegin⟩
  obtain ⟨hresult, hstate⟩ := hchain hcall
  exact ⟨congrArg₂ Outcome.mk hresult hstate.journal, hstate.context, hstate.memory, hstate.drawn,
    hstate.trace, hstate.spans⟩

end

/-- A middleware of a stack cancels the context, stores an extension and hands on a clone, and the
handler fails: an invocation that is late and cancelled goes like one that is neither. -/
theorem unseen_late :
    let cancelling : Middleware Request Response :=
      ⟨"cancelling", fun i => .act .cancel fun _ => .act (.setExtension (Value.u32 1)) fun _ =>
        .act .clone fun (n : Nat) => .callOn (some n) i .finish⟩
    let stack : Stack := .holding { id := "stack" } (.counting 0) fun k => match k with
      | .build => [cancelling]
      | _ => []
    let t : Terminal := fun _ => .act (.note ⟨"handler", "call", .null⟩) fun _ =>
      .fail (.raised "Offline" "connection reset")
    let layers := [Layer.stack stack]
    let calm := Start.new none false [Value.bool true]
    let late := Start.new (some 0) true [Value.bool true]
    let one := invocation (chain t.handler layers) calm Value.unit {}
    let other := invocation (chain t.handler layers) late Value.unit {}
    t.Does Effect.Untimed ∧ (∀ l ∈ layers, l.All (Middleware.Does Effect.Untimed)) ∧
    late.hand = calm.hand ∧ calm.toMemory.Timeless late.toMemory ∧
    calm.context.isExpired = false ∧ late.context.isExpired = true ∧
    other.1 = one.1 ∧ one.1.result = .error (.raised "Offline" "connection reset") ∧
    other.2.context.extensions = one.2.context.extensions ∧ other.2.trace = one.2.trace := by
  intro cancelling stack t layers calm late one other
  have ht : t.Does Effect.Untimed := fun _ => ⟨trivial, fun _ => trivial⟩
  have hcancelling : cancelling.Does Effect.Untimed :=
    fun _ => ⟨trivial, fun _ => ⟨trivial, fun _ => ⟨trivial, fun _ _ => trivial⟩⟩⟩
  have hstack : (Layer.stack stack).All (Middleware.Does Effect.Untimed) := by
    intro k m hm
    rw [Stack.order_holding] at hm
    cases k with
    | build =>
        rw [List.mem_singleton.mp hm]
        exact hcancelling
    | init | serialize | finalize | deserialize => exact absurd hm List.not_mem_nil
  have hlayers : ∀ l ∈ layers, l.All (Middleware.Does Effect.Untimed) :=
    List.forall_mem_singleton.mpr hstack
  have hmemory : calm.toMemory.Timeless late.toMemory := by
    refine ⟨fun i => ?_, rfl⟩
    cases i <;> rfl
  obtain ⟨houtcome, hextensions, -, -, htrace, -⟩ :=
    time_unseen t layers ht hlayers Value.unit {} calm late rfl hmemory
  exact ⟨ht, hlayers, rfl, hmemory, rfl, rfl, houtcome, rfl, hextensions, htrace⟩

end OpStack
