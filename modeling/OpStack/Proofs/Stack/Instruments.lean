import OpStack.Proofs.Stack.Sessions

/-!
# OpStack.Proofs.Stack.Instruments

Instruments are neutral.  A stack and each of its steps may be told to open a span for every
invocation.  Two sessions with the same operations, on stacks that differ in these six flags
alone, say the same to the caller and leave the same context and counts; their observers are
told the same events.  Only the spans between and around the events differ.

The relation of the two tellings is that of their events.  It goes into the frames of
differently instrumented invocations and out of them (`frames_stack`, `frames_step`), and no
operation of a session looks at a flag (`agree_perform_withInstruments`).
-/

namespace OpStack

variable [Payloads]

/-! ## Events of a trace -/

def World.events (w : World) : List Event := w.trace.filterMap Record.event?

@[simp] theorem World.events_tell (w : World) (e : Event) :
    (w.tell e).events = w.events ++ [e] := by
  simp [events, tell, Record.event?]

@[simp] theorem World.events_openSpan (w : World) (s : Span) :
    (w.openSpan s).events = w.events := by
  simp [events, openSpan, Record.event?]

@[simp] theorem World.events_closeSpan (w : World) (s : Span) :
    (w.closeSpan s).events = w.events := by
  simp [events, closeSpan, Record.event?]

@[simp] theorem Frame.events_openSpan (f : Frame) (w : World) :
    (f.openSpan w).events = w.events := by
  rw [openSpan]
  cases f.span? <;> simp

@[simp] theorem Frame.events_closeSpan (f : Frame) (w : World) :
    (f.closeSpan w).events = w.events := by
  rw [closeSpan]
  cases f.span? <;> simp

/-- The two observers were told the same events. -/
def SameEvents : Accord where
  Rel _ x x' := x'.trace.filterMap Record.event? = x.trace.filterMap Record.event?
  remark r h := by rw [Telling.remark, Telling.remark, List.filterMap_append, h,
    List.filterMap_append]; rfl

namespace SameEvents

variable {w w' : World} {place : List Frame}

/-- A stack tells the same events with and without its span. -/
theorem frames_stack (id : String) (own own' : Bool) :
    (Likeness.ofTold SameEvents).Frames (.stack id own) (.stack id own') := by
  refine Likeness.frames_ofTold rfl ?_ ?_
  · intro place w w' h
    change w'.events = w.events at h
    show (Frame.enter _ w').events = (Frame.enter _ w).events
    simp [Frame.enter, h]
  · intro place w w' fault h
    change w'.events = w.events at h
    show (Frame.leave _ fault w').events = (Frame.leave _ fault w).events
    cases fault <;> simp [Frame.leave, h]

/-- A step tells the same events with and without its span. -/
theorem frames_step (k : StepId) (own own' : Bool) (members : Nat) (key : Option Nat) :
    (Likeness.ofTold SameEvents).Frames (.step k own members key) (.step k own' members key) := by
  have hdrawn : ∀ (u : World) (key : Nat), (u.drawUnder key).events = u.events := fun _ _ => rfl
  refine Likeness.frames_ofTold rfl ?_ ?_
  · intro place w w' h
    change w'.events = w.events at h
    show (Frame.enter _ w').events = (Frame.enter _ w).events
    cases key <;> simp [Frame.enter, hdrawn, h]
  · intro place w w' fault h
    change w'.events = w.events at h
    show (Frame.leave _ fault w').events = (Frame.leave _ fault w).events
    simp [Frame.leave, h]

end SameEvents

/-! ## Stacks that differ in their instruments -/

def Step.withInstrument {k : StepId} (s : Step k) (wanted : Bool) : Step k :=
  { s with instrument := wanted }

/-- The stack with its own flag and those of its steps set. -/
def Stack.withInstruments (s : Stack) (own : Bool) (steps : StepId → Bool) : Stack where
  id := s.id
  instrument := own
  init := s.init.withInstrument (steps .init)
  serialize := s.serialize.withInstrument (steps .serialize)
  build := s.build.withInstrument (steps .build)
  finalize := s.finalize.withInstrument (steps .finalize)
  deserialize := s.deserialize.withInstrument (steps .deserialize)

def Stack.Reinstrumented (s s' : Stack) : Prop := ∃ own steps, s' = s.withInstruments own steps

namespace Stack

/-- Each step has its flag set. -/
theorem step_withInstruments (s : Stack) (own : Bool) (steps : StepId → Bool) (k : StepId) :
    (s.withInstruments own steps).step k = (s.step k).withInstrument (steps k) := by
  cases k <;> rfl

/-- Stacks that differ in their flags are alike to the caller. -/
theorem wraps_withInstruments {s s' : Stack} (h : s.Reinstrumented s') :
    (Likeness.ofTold SameEvents).Wraps s.wrap s'.wrap := by
  obtain ⟨own, steps, rfl⟩ := h
  refine Likeness.wraps_stack (SameEvents.frames_stack s.id s.instrument own) fun k => ?_
  rw [step_withInstruments]
  exact Likeness.wraps_step rfl (SameEvents.frames_step k _ _ _ _)
    (Likeness.wraps_within fun m _ => Likeness.does_middleware m)

end Stack

/-- The outcome of an operation with the flag of the step set. -/
def Step.Performed.withInstrument {k : StepId} (p : Performed k) (wanted : Bool) : Performed k :=
  { p with step := p.step.withInstrument wanted }

/-- No operation on a step looks at its flag. -/
theorem Step.Op.perform_withInstrument {k : StepId} (op : Step.Op k) (s : Step k)
    (wanted : Bool) :
    ∃ wanted', op.perform (s.withInstrument wanted) = (op.perform s).withInstrument wanted' := by
  have hmembers : ∀ change : Registry.Op (Middleware k.Input k.Output),
      Performed.ofMembers (s.withInstrument wanted) (change.perform s.members) =
        (Performed.ofMembers s (change.perform s.members)).withInstrument wanted := by
    intro change
    rw [Performed.ofMembers, Performed.ofMembers]
    cases (change.perform s.members).reply <;> rfl
  cases op with
  | add m position => exact ⟨wanted, hmembers (.add m position)⟩
  | insert m anchor position => exact ⟨wanted, hmembers (.insert m anchor position)⟩
  | swap id m => exact ⟨wanted, hmembers (.swap id m)⟩
  | remove id => exact ⟨wanted, hmembers (.remove id)⟩
  | clear => exact ⟨wanted, hmembers .clear⟩
  | contains id => exact ⟨wanted, hmembers (.contains id)⟩
  | setInstrument wanted' => exact ⟨wanted', rfl⟩
  | info => exact ⟨wanted, rfl⟩

/-- To change a step after setting the flags is to set them after changing it. -/
theorem Stack.withStep_withInstruments (s : Stack) (own : Bool) (steps : StepId → Bool)
    {k : StepId} (t : Step k) (wanted : Bool) :
    (s.withInstruments own steps).withStep k (t.withInstrument wanted) =
      (s.withStep k t).withInstruments own fun j => if j = k then wanted else steps j := by
  cases k <;> rfl

/-! ## Sessions -/

namespace Stack.Session

variable {s s' : Session}

/-- Both observers are told what was done to a step. -/
theorem rel_events {w w' : World} (h : (Likeness.ofTold SameEvents).Rel [] w w')
    (es : List Registry.Event) :
    (Likeness.ofTold SameEvents).Rel [] (es.foldl (fun w e => w.tell (.registry e)) w)
      (es.foldl (fun w e => w.tell (.registry e)) w') := by
  induction es generalizing w w' with
  | nil => exact h
  | cons e es ih =>
      obtain ⟨⟨⟨hmemory, hjournal, hdrawn⟩, hhand⟩, htold⟩ := h
      refine ih ⟨⟨⟨hmemory, hjournal, hdrawn⟩, hhand⟩, ?_⟩
      change w'.events = w.events at htold
      show (w'.tell _).events = (w.tell _).events
      rw [World.events_tell, World.events_tell, htold]

/-- An operation on a step is answered alike, and the steps go on differing in flags alone. -/
theorem agree_performOn (h : Beside SameEvents Reinstrumented s s') (k : StepId) (op : Step.Op k) :
    Agree (Beside SameEvents Reinstrumented) (s.performOn k op) (s'.performOn k op) := by
  obtain ⟨stack', spare', shared', w'⟩ := s'
  obtain ⟨⟨own, steps, rfl⟩, rfl, rfl, hworld⟩ := h
  obtain ⟨wanted, hop⟩ := op.perform_withInstrument (s.stack.step k) (steps k)
  rw [performOn, performOn, step_withInstruments, hop]
  refine ⟨rfl, ⟨own, _, withStep_withInstruments s.stack own steps _ wanted⟩, rfl, rfl, ?_⟩
  exact rel_events hworld (op.perform (s.stack.step k)).events

/-- So is every operation. -/
theorem agree_perform_withInstruments (op : Op) (h : Beside SameEvents Reinstrumented s s') :
    Agree (Beside SameEvents Reinstrumented) (s.perform op) (s'.perform op) := by
  cases op with
  | on k op => exact agree_performOn h k op
  | readd k position =>
      obtain ⟨own, steps, hstack⟩ := h.stack
      have hspare : s'.spareFor k = s.spareFor k := by rw [spareFor, spareFor, h.spare]
      have hlist : (s'.stack.step k).list = (s.stack.step k).list := by
        rw [hstack, step_withInstruments]
        rfl
      rw [perform, perform, hspare]
      cases s.spareFor k with
      | some m => exact agree_performOn h k (.add m position)
      | none => exact ⟨congrArg Reply.nothing hlist, h⟩
  | invoke v t start => exact agree_perform wraps_withInstruments rfl h
  | decorate vs t => exact agree_perform wraps_withInstruments rfl h
  | setInstrument wanted =>
      obtain ⟨own, steps, hstack⟩ := h.stack
      refine ⟨rfl, ⟨wanted, fun _ => wanted, ?_⟩, h.spare, h.shared, h.world⟩
      show s'.stack.setInstrument wanted = _
      rw [hstack]
      rfl
  | stepList k =>
      obtain ⟨own, steps, hstack⟩ := h.stack
      refine ⟨congrArg Reply.texts ?_, h⟩
      rw [hstack, step_withInstruments]
      rfl
  | list | display | debug | debugPretty | ids =>
      obtain ⟨own, steps, hstack⟩ := h.stack
      refine ⟨?_, h⟩
      rw [perform, perform, hstack]
      rfl

/-- **Instruments are neutral.**  For every way to instrument a stack and its steps, the same
operations

1. tell the caller the same: results, failures, logs, and what is read of the stack;
2. leave the same context, the same cancellation flags and the same request counts;
3. tell the observer the same events, with the same fields and in the same order. -/
theorem instruments_neutral (s : Session) (own own' : Bool) (steps steps' : StepId → Bool)
    (ops : List Op) :
    let one := { s with stack := s.stack.withInstruments own steps }.run ops
    let other := { s with stack := s.stack.withInstruments own' steps' }.run ops
    other.1 = one.1 ∧
    other.2.shared = one.2.shared ∧
    one.2.world.Quiet other.2.world ∧
    other.2.world.events = one.2.world.events := by
  intro one other
  have hworld : (Likeness.ofTold SameEvents).Rel [] s.world s.world := ⟨.refl _, rfl⟩
  have hstart : Beside SameEvents Reinstrumented
      { s with stack := s.stack.withInstruments own steps }
      { s with stack := s.stack.withInstruments own' steps' } :=
    ⟨⟨own', steps', rfl⟩, rfl, rfl, hworld⟩
  have hrun : Agree (Beside SameEvents Reinstrumented) one other :=
    agree_run (fun op _ _ _ h => agree_perform_withInstruments op h) hstart
  exact ⟨hrun.same, hrun.rel.shared, hrun.rel.world.1, hrun.rel.world.2⟩

end Stack.Session

end OpStack
