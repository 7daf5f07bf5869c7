import OpStack.Proofs.Chronicle

/-!
# OpStack.Proofs.Chain.Bracketing

Spans and events in the trace of an invocation.

* Frames are entered and left like brackets: `Nested place ms` says that every frame which
  the moments enter is left again, after everything inside of it, and that the place of
  each moment is `place` with the frames that are open just then.
* Entering a frame opens its span, if it is instrumented; a step then tells its start
  inside the span.  Before the span is closed, a stack tells of a failure.  What middleware
  tell is told where they stand.  `Moment.records` says so with the spans read off the place
  of the moment.
* A frame is left with the failure that its invocation answers with (`Answers`).

The state keeps the active spans in one list that is changed by opening and closing.
`trace_bracketed` says that, whatever is retried, caught or cut short, this list always
shows the open frames, and that the trace consists of the records of the moments.
-/

namespace OpStack

variable [Payloads] {I O α : Type}

/-! ## Places and brackets -/

/-- The frame that the deed enters or leaves. -/
def Deed.frame? : Deed → Option Frame
  | entered f | left f _ => some f
  | _ => none

/-- The frames that are open right after the moment, outermost first. -/
def Moment.within (m : Moment) : List Frame :=
  match m.deed with
  | .entered f => m.place ++ [f]
  | _ => m.place

/-- What a behaviour tells, if this is what it does. -/
def Deed.remark? : Deed → Option Remark
  | did _ (.remark r) => some r
  | _ => none

/-- Apart from entering and leaving, a deed leaves the spans alone and adds to the trace what a
behaviour tells. -/
theorem Deed.apply_quiet {d : Deed} (hd : d.frame? = none) (w : World) :
    (d.apply w).spans = w.spans ∧
      (d.apply w).trace = w.trace ++ d.remark?.toList.map fun r => .event (.remark r) w.spans := by
  cases d with
  | entered f | left f fault => contradiction
  | did i e =>
      cases e with
      | remark r => exact ⟨rfl, rfl⟩
      | _ => exact ⟨rfl, (List.append_nil _).symm⟩
  | called i | resumed i fault | raised e | forwarded e => exact ⟨rfl, (List.append_nil _).symm⟩

theorem Moment.within_quiet {m : Moment} (hm : m.deed.frame? = none) : m.within = m.place := by
  unfold within
  split
  · next hd => rw [hd] at hm; contradiction
  · rfl

/-- Where a behaviour ends, no frame is entered or left. -/
theorem Behaviour.quiet_of_mem_ending {place : List Frame} {pending : Option Fault} {w : World}
    {result : Except Fault α} {m : Moment} (hm : m ∈ ending place pending w result) :
    m.place = place ∧ m.deed.frame? = none := by
  cases result with
  | ok a => exact absurd hm List.not_mem_nil
  | error e =>
      rw [List.mem_singleton.mp hm]
      refine ⟨rfl, ?_⟩
      dsimp only
      split <;> rfl

/-- Frames are entered and left like brackets, around moments whose place they show. -/
inductive Nested : List Frame → List Moment → Prop where
  | nil {place : List Frame} : Nested place []
  | deed {place : List Frame} {m : Moment} {ms : List Moment} (hplace : m.place = place)
      (hdeed : m.deed.frame? = none) (hms : Nested place ms) : Nested place (m :: ms)
  | frame {place : List Frame} {f : Frame} {fault : Option Fault} {w w' : World}
      {inner ms : List Moment} (hinner : Nested (place ++ [f]) inner) (hms : Nested place ms) :
      Nested place (⟨place, .entered f, w⟩ :: (inner ++ ⟨place, .left f fault, w'⟩ :: ms))

/-- Moments in which no frame is entered or left are nested anywhere. -/
theorem Nested.of_quiet {place : List Frame} {ms : List Moment}
    (h : ∀ m ∈ ms, m.place = place ∧ m.deed.frame? = none) : Nested place ms := by
  induction ms with
  | nil => exact .nil
  | cons m ms ih =>
      obtain ⟨hplace, hdeed⟩ := h m List.mem_cons_self
      exact .deed hplace hdeed (ih fun n hn => h n (List.mem_cons_of_mem m hn))

/-- Brackets one after the other. -/
theorem Nested.append {place : List Frame} {ms ns : List Moment} (hms : Nested place ms)
    (hns : Nested place ns) : Nested place (ms ++ ns) := by
  induction hms with
  | nil => exact hns
  | deed hplace hdeed _ ih => exact .deed hplace hdeed (ih hns)
  | frame hinner _ _ ih =>
      rw [List.cons_append, List.append_assoc, List.cons_append]
      exact .frame hinner (ih hns)

/-- A behaviour is nested where the next handler is: its own deeds are neither entrances nor exits.
-/
theorem Behaviour.nested_story {next : Narrated I O}
    (hnext : ∀ place c, Nested place (next.story place c)) (place : List Frame)
    (b : Behaviour I O α) (pending : Option Fault) (w : World) :
    Nested place (b.story next place pending w) := by
  induction b generalizing pending w with
  | finish result => exact .of_quiet fun _ hm => quiet_of_mem_ending hm
  | callOn c input resume ih =>
      exact .deed rfl rfl ((hnext place (input, w.offer c)).append (.deed rfl rfl (ih _ _ _)))
  | actOn c e resume ih => exact .deed rfl rfl (ih _ _ _)

/-- Every layer keeps the brackets. -/
theorem kept_nested : Kept (fun _ => True) fun _ t =>
    ∀ place c, Nested place (t.story place c) where
  terminal t place c := Behaviour.nested_story (fun _ c => c.1.elim) place (t c.1) none c.2
  around m _ hnext place c := Behaviour.nested_story hnext place (m.body c.1) none c.2
  carried _ _ hnext place c := hnext place (_, c.2)
  framed f _ _ hinner place c := .frame (hinner (place ++ [f]) (_, f.enter c.2)) .nil

/-- The open frames are the first ones of those that the calls open one inside the other. -/
def Narrated.Reaches (fs : List Frame) (t : Narrated I O) : Prop :=
  ∀ place c, ∀ m ∈ t.story place c, m.within <+: place ++ fs

/-- What a behaviour reaches is what its next handler reaches. -/
theorem Behaviour.within_prefix {fs : List Frame} {next : Narrated I O} (hnext : next.Reaches fs)
    (place : List Frame) (b : Behaviour I O α) (pending : Option Fault) (w : World) :
    ∀ m ∈ b.story next place pending w, m.within <+: place ++ fs := by
  have hplace : place <+: place ++ fs := List.prefix_append place fs
  induction b generalizing pending w with
  | finish result =>
      intro m hm
      obtain ⟨hm, hquiet⟩ := quiet_of_mem_ending hm
      rw [Moment.within_quiet hquiet, hm]
      exact hplace
  | callOn c input resume ih =>
      refine List.forall_mem_cons.mpr ⟨hplace, List.forall_mem_append.mpr ⟨?_, ?_⟩⟩
      · exact hnext place (input, w.offer c)
      · exact List.forall_mem_cons.mpr ⟨hplace, ih _ _ _⟩
  | actOn c e resume ih => exact List.forall_mem_cons.mpr ⟨hplace, ih _ _ _⟩

/-- Every layer reaches its own frames, and then those inside. -/
theorem kept_reaches : Kept (fun _ => True) fun fs t => t.Reaches fs where
  terminal t place c := Behaviour.within_prefix (fun _ c => c.1.elim) place (t c.1) none c.2
  around m _ hnext place c := Behaviour.within_prefix hnext place (m.body c.1) none c.2
  carried _ _ hnext place c := hnext place (_, c.2)
  framed {_ _ fs _} f _ _ hinner place c := by
    refine List.forall_mem_cons.mpr ⟨?_, List.forall_mem_append.mpr ⟨?_, ?_⟩⟩
    · show place ++ [f] <+: place ++ f :: fs
      rw [List.append_cons place f fs]
      exact List.prefix_append _ fs
    · intro m hm
      rw [List.append_cons place f fs]
      exact hinner (place ++ [f]) (_, f.enter c.2) m hm
    · exact List.forall_mem_singleton.mpr (List.prefix_append place (f :: fs))

/-! ## Records of moments -/

namespace Frame

/-- What a step tells on being entered. -/
def started : Frame → List Span → List Record
  | step id _ members _, active => [.event (.stepStarted id members) active]
  | stack .., _ => []

/-- What a stack tells before it is left with a failure. -/
def failed : Frame → Option Fault → List Span → List Record
  | stack id _, some e, active => [.event (.stackFailed id e.message) active]
  | _, _, _ => []

theorem spans_enter (f : Frame) (w : World) :
    (f.enter w).spans = w.spans ++ f.span?.toList := by
  cases f with
  | stack id instrument => cases instrument <;> simp [enter, openSpan, span?]
  | step id instrument members key =>
      cases key <;> cases instrument <;> simp [enter, openSpan, span?, World.drawUnder]

/-- Entering a frame opens its span, and tells of a start inside it. -/
theorem trace_enter (f : Frame) (w : World) :
    (f.enter w).trace = w.trace ++ (f.span?.toList.map (.opened · w.spans) ++
      f.started (w.spans ++ f.span?.toList)) := by
  cases f with
  | stack id instrument =>
      cases instrument <;> simp [enter, openSpan, span?, started, World.openSpan]
  | step id instrument members key =>
      cases key <;> cases instrument <;>
        simp [enter, openSpan, span?, started, World.drawUnder, World.openSpan, World.tell]

variable {f : Frame} {w : World} {outer : List Span}

/-- Leaving a frame takes its span away from the active ones. -/
theorem spans_leave (fault : Option Fault) (hw : w.spans = outer ++ f.span?.toList) :
    (f.leave fault w).spans = outer := by
  have hclose : ∀ u : World, u.spans = w.spans → (f.closeSpan u).spans = outer := by
    intro u hu
    rw [closeSpan]
    cases hs : f.span? <;> simp [hu, hw, hs]
  cases f with
  | stack id instrument => cases fault <;> exact hclose _ rfl
  | step id instrument members key => exact hclose w rfl

/-- Leaving a frame tells of a failure inside its span, and closes it. -/
theorem trace_leave (fault : Option Fault) (hw : w.spans = outer ++ f.span?.toList) :
    (f.leave fault w).trace = w.trace ++ (f.failed fault (outer ++ f.span?.toList) ++
      f.span?.toList.map (.closed · outer)) := by
  have hclose : ∀ u : World, u.spans = w.spans →
      (f.closeSpan u).trace = u.trace ++ f.span?.toList.map (.closed · outer) := by
    intro u hu
    rw [closeSpan]
    cases hs : f.span? <;> simp [World.closeSpan, hu, hw, hs]
  cases f with
  | stack id instrument =>
      cases fault with
      | none => exact hclose w rfl
      | some e =>
          refine (hclose (w.tell (.stackFailed id e.message)) rfl).trans ?_
          rw [World.tell, hw, List.append_assoc, failed]
  | step id instrument members key => exact hclose w rfl

end Frame

/-- What the moment adds to the trace, if the spans of its place are active inside `base`. -/
def Moment.records (base : List Span) (m : Moment) : List Record :=
  match m.deed with
  | .entered f =>
    f.span?.toList.map (.opened · (base ++ Frame.spans m.place)) ++
      f.started (base ++ Frame.spans (m.place ++ [f]))
  | .left f fault =>
    f.failed fault (base ++ Frame.spans (m.place ++ [f])) ++
      f.span?.toList.map (.closed · (base ++ Frame.spans m.place))
  | .did _ (.remark r) => [.event (.remark r) (base ++ Frame.spans m.place)]
  | _ => []

/-- A deed without a frame is told with the spans of the place, if it is a remark. -/
theorem Moment.records_quiet (base : List Span) {m : Moment} (hm : m.deed.frame? = none) :
    m.records base =
      m.deed.remark?.toList.map fun r => .event (.remark r) (base ++ Frame.spans m.place) := by
  obtain ⟨place, deed, w⟩ := m
  cases deed with
  | entered f | left f fault => contradiction
  | did i e => cases e <;> rfl
  | called i | resumed i fault | raised e | forwarded e => rfl

/-- Nested moments give the active spans back as they were.  On the way they show the open
frames, and the trace grows by the records of the moments. -/
theorem Nested.bracketed {place : List Frame} {ms : List Moment} (h : Nested place ms)
    {base : List Span} {w w' : World} (hf : Follows w ms w')
    (hw : w.spans = base ++ Frame.spans place) :
    w'.spans = w.spans ∧
      (∀ m ∈ ms, m.world.spans = base ++ Frame.spans m.within) ∧
      w'.trace = w.trace ++ ms.flatMap (Moment.records base) := by
  induction h generalizing w w' with
  | nil =>
      obtain rfl : w' = w := hf
      exact ⟨rfl, List.forall_mem_nil _, (List.append_nil _).symm⟩
  | @deed place m ms hplace hdeed _ ih =>
      obtain ⟨hm, hrest⟩ := hf
      obtain ⟨hspans, htrace⟩ := Deed.apply_quiet hdeed w
      rw [← hm] at hspans htrace
      obtain ⟨hspans', hall, htrace'⟩ := ih hrest (hspans.trans hw)
      refine ⟨hspans'.trans hspans, List.forall_mem_cons.mpr ⟨?_, hall⟩, ?_⟩
      · rw [Moment.within_quiet hdeed, hplace, hspans, hw]
      · rw [htrace', htrace, List.flatMap_cons, Moment.records_quiet base hdeed, hplace, hw,
          List.append_assoc]
  | @frame place f fault u u' inner ms _ _ ihInner ihRest =>
      obtain ⟨hu, hf⟩ := hf
      obtain ⟨x, hinner, hu', hrest⟩ := Follows.append_iff.mp hf
      -- the span of the frame, if it has one, is the innermost while the frame is open
      have hinside : base ++ Frame.spans (place ++ [f]) = w.spans ++ f.span?.toList := by
        rw [hw, Frame.spans_append, Frame.spans_singleton, List.append_assoc]
      have hspans : u.spans = base ++ Frame.spans (place ++ [f]) := by
        rw [hinside, show u = f.enter w from hu, Frame.spans_enter]
      obtain ⟨hx, hallInner, htraceInner⟩ := ihInner hinner hspans
      rw [hspans, hinside] at hx
      have hback : u'.spans = w.spans := by
        rw [show u' = f.leave fault x from hu', Frame.spans_leave fault hx]
      obtain ⟨hspans', hallRest, htraceRest⟩ := ihRest hrest (hback.trans hw)
      refine ⟨hspans'.trans hback, ?_, ?_⟩
      · refine List.forall_mem_cons.mpr ⟨hspans, List.forall_mem_append.mpr ⟨hallInner, ?_⟩⟩
        exact List.forall_mem_cons.mpr ⟨hback.trans hw, hallRest⟩
      · have hentered : u.trace = w.trace ++ Moment.records base ⟨place, .entered f, u⟩ := by
          rw [show u = f.enter w from hu, Frame.trace_enter, ← hinside, hw]
          rfl
        have hleft : u'.trace = x.trace ++ Moment.records base ⟨place, .left f fault, u'⟩ := by
          rw [show u' = f.leave fault x from hu', Frame.trace_leave fault hx, ← hinside, hw]
          rfl
        rw [htraceRest, hleft, htraceInner, hentered]
        simp only [List.flatMap_cons, List.flatMap_append, List.append_assoc]

/-! ## Answers of invocations -/

/-- What comes back to a caller by the deed: the failure, or none with a success. -/
def Deed.returned? : Deed → Option (Option Fault)
  | left _ fault | resumed _ fault => some fault
  | _ => none

/-- With such a failure the next of the moments goes on, or else the answer after all of them. -/
def Returns (fault : Option Fault) : List Moment → Option Fault → Prop
  | [], answer => answer = fault
  | m :: _, _ => m.deed.returned? = some fault

/-- Whenever a frame is left, the failure goes to whoever called; the answer after all moments
is a success or fails with `answer`. -/
def Answers : List Moment → Option Fault → Prop
  | [], _ => True
  | m :: ms, answer => (∀ f fault, m.deed = .left f fault → Returns fault ms answer) ∧
      Answers ms answer

namespace Answers

variable {ms ns : List Moment} {m : Moment} {r answer : Option Fault}

theorem cons_quiet (hm : m.deed.frame? = none) (h : Answers ms answer) :
    Answers (m :: ms) answer :=
  ⟨fun f fault hd => by rw [hd] at hm; contradiction, h⟩

/-- The answer of a first call is what is returned to in the moments after it. -/
theorem append (hms : Answers ms r) (hns : Answers ns answer) (hr : Returns r ns answer) :
    Answers (ms ++ ns) answer := by
  induction ms with
  | nil => exact hns
  | cons m ms ih =>
      refine ⟨fun f fault hd => ?_, ih hms.2⟩
      have hlast := hms.1 f fault hd
      cases ms with
      | nil => exact (show r = fault from hlast) ▸ hr
      | cons n ms => exact hlast

/-- Whatever frame is left in between, the moments after it return its failure. -/
theorem split {before after : List Moment} (h : Answers (before ++ m :: after) answer)
    {f : Frame} {fault : Option Fault} (hm : m.deed = .left f fault) :
    Returns fault after answer := by
  induction before with
  | nil => exact h.1 f fault hm
  | cons n before ih => exact ih h.2

end Answers

/-- A behaviour answers with the failure that it ends with, and resumes with those of its calls. -/
theorem Behaviour.answers_story {next : Narrated I O}
    (hnext : ∀ place c, Answers (next.story place c) (fault? (next.handler c.1 c.2).1))
    (place : List Frame) (b : Behaviour I O α) (pending : Option Fault) (w : World) :
    Answers (b.story next place pending w) (fault? (b.run next.handler w).1) := by
  induction b generalizing pending w with
  | finish result =>
      cases result with
      | ok a => trivial
      | error e => exact .cons_quiet (by dsimp only; split <;> rfl) trivial
  | callOn c input resume ih =>
      exact .cons_quiet rfl ((hnext place (input, w.offer c)).append
        (.cons_quiet rfl (ih _ _ _)) rfl)
  | actOn c e resume ih => exact .cons_quiet rfl (ih _ _ _)

/-- Every layer answers with the failure of its invocation. -/
theorem kept_answers : Kept (fun _ => True) fun _ t => ∀ place c,
    Answers (t.story place c) (fault? (t.handler c.1 c.2).1) where
  terminal t place c := Behaviour.answers_story (fun _ c => c.1.elim) place (t c.1) none c.2
  around m _ hnext place c := Behaviour.answers_story hnext place (m.body c.1) none c.2
  carried forward complete hnext place c := by
    have hinner := hnext place (forward c.1, c.2)
    rwa [← fault?_map complete] at hinner
  framed f into exit hinner place c := by
    refine ⟨nofun, (hinner (place ++ [f]) (into c, f.enter c.2)).append ⟨?_, trivial⟩ rfl⟩
    intro g fault hd
    cases hd
    exact fault?_map _ _

/-- What happens in an invocation begins with entering its frame and ends with leaving it, with
the failure that the invocation answers with. -/
theorem Narrated.story_framed {J P : Type} (inner : Narrated J P) (f : Frame)
    (into : Call Payload → J) (exit : P → Payload) (place : List Frame) (c : Call Payload) :
    let own := (inner.framed f into exit).handler c.1 c.2
    (inner.framed f into exit).story place c = ⟨place, .entered f, f.enter c.2⟩ ::
      (inner.story (place ++ [f]) (into c, f.enter c.2) ++
        [⟨place, .left f (fault? own.1), own.2⟩]) := by
  simp only [framed, fault?_map]

/-! ## The trace of an invocation -/

/-- **Well bracketed.**  Whatever its middleware do, in an invocation of a chain

1. the frames are entered and left like brackets;
2. the open frames are always the first ones of those of the layers, so inside a stack
   they are the first ones of its five steps;
3. the active spans are always those of the open frames that are instrumented, and
   therefore after a frame is left, with or without a failure, those from before it;
4. the trace has grown by the records of the moments, each with the spans of the place
   that it comes from;
5. in the end the active spans are what they were;
6. a frame is left with the failure that its invocation answers with: a behaviour that called
   resumes with it, or the frame around it is left with it, or the whole chain answers with it.
   This is the failure of the stack or the step itself, run on what it was called with. -/
theorem trace_bracketed (t : Terminal) (layers : List Layer) (v : Payload) (w : World) :
    let story := (narration t layers).story [] (v, w)
    let answered := chain t.handler layers v w
    Nested [] story ∧
    (∀ m ∈ story, m.within <+: layers.flatMap Layer.frames) ∧
    (∀ m ∈ story, m.world.spans = w.spans ++ Frame.spans m.within) ∧
    answered.2.trace = w.trace ++ story.flatMap (Moment.records w.spans) ∧
    answered.2.spans = w.spans ∧
    (∀ before m after f fault, story = before ++ m :: after → m.deed = .left f fault →
      Returns fault after (fault? answered.1)) ∧
    (∀ (s : Stack) (next : Narrated Payload Payload) (place : List Frame) (c : Call Payload),
      let own := s.invoke next.handler c.1 c.2
      ∃ inner, (s.narrate next).story place c = ⟨place, .entered s.frame, s.frame.enter c.2⟩ ::
        (inner ++ [⟨place, .left s.frame (fault? own.1), own.2⟩])) ∧
    ∀ (k : StepId) (s : Step k) (next : Narrated Payload Payload) (place : List Frame)
        (c : Call Payload),
      let own := s.wrap next.handler c.1 c.2
      ∃ inner, (s.narrate next).story place c = ⟨place, .entered s.frame, s.frame.enter c.2⟩ ::
        (inner ++ [⟨place, .left s.frame (fault? own.1), own.2⟩]) := by
  intro story answered
  have hnested : Nested [] story := kept_nested.always t layers [] (v, w)
  have hfollows : Follows w story answered.2 := follows_narration t layers [] (v, w)
  have hspans : w.spans = w.spans ++ Frame.spans [] := (List.append_nil _).symm
  obtain ⟨hback, hall, htrace⟩ := hnested.bracketed hfollows hspans
  refine ⟨hnested, kept_reaches.always t layers [] (v, w), hall, htrace, hback, ?_, ?_, ?_⟩
  · intro before m after f fault hstory hm
    have hanswers := kept_answers.always t layers [] (v, w)
    rw [narration_handler] at hanswers
    rw [show (narration t layers).story [] (v, w) = _ from hstory] at hanswers
    exact hanswers.split hm
  · intro s next place c own
    have hown : own = (s.narrate next).handler c.1 c.2 := by rw [s.handler_narrate]; rfl
    rw [hown]
    exact ⟨_, Narrated.story_framed _ _ _ _ place c⟩
  · intro k s next place c own
    have hown : own = (s.narrate next).handler c.1 c.2 := by rw [s.handler_narrate]
    rw [hown]
    exact ⟨_, Narrated.story_framed _ _ _ _ place c⟩

end OpStack
