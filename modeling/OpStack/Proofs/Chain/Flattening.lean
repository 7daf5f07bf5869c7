import OpStack.Proofs.Stack.Sessions
import OpStack.Value.Source

/-!
# OpStack.Proofs.Chain.Flattening

Chains that are put together in other ways.  Layers can be put around a handler in groups, and
a stack among them can give way to its five steps, in execution order.  What is left out then is
the frame of the stack (`Frame.Dissolves`):

* the span that it opens and closes, and the failures that it tells of;
* in every record between these, its span among the active ones (`Record.behind`).

Inside the stack the two runs are alike (`Likeness.inside`), and outside of it as well
(`Likeness.outside`); `rel_inside` and `rel_outside` go from the one to the other.

A handler inside a stack is an invocation of the stack, as often as it is called.
-/

namespace OpStack

/-! ## Records without a frame -/

/-- The record inside other spans. -/
def Record.mapWithin (g : List Span → List Span) : Record → Record
  | opened s ws => opened s (g ws)
  | closed s ws => closed s (g ws)
  | event e ws => event e (g ws)

/-- The record inside further spans, which are active behind the first `n`. -/
def Record.behind (n : Nat) (more : List Span) : Record → Record :=
  mapWithin fun ws => ws.take n ++ more ++ ws.drop n

namespace Frame

variable {f : Frame} {rs rs' qs qs' : List Record}

/-- The second list has the records of the first, but not those that the frame itself tells on
being entered inside the spans `outer` and on being left, and of the records in between each
without the span of the frame. -/
inductive Dissolves (f : Frame) : List Record → List Record → Prop where
  | nil : Dissolves f [] []
  | record (r : Record) {rs rs' : List Record} (hrs : Dissolves f rs rs') :
      Dissolves f (r :: rs) (r :: rs')
  | frame (outer : List Span) (fault : Option Fault) (inner : List Record)
      {rs rs' : List Record} (hrs : Dissolves f rs rs') :
      Dissolves f
        (f.opening outer ++ inner.map (Record.behind outer.length f.span?.toList) ++
          f.closing fault outer ++ rs)
        (inner ++ rs')

/-- Runs one after the other. -/
theorem Dissolves.append (hrs : f.Dissolves rs rs') (hqs : f.Dissolves qs qs') :
    f.Dissolves (rs ++ qs) (rs' ++ qs') := by
  induction hrs with
  | nil => exact hqs
  | record r _ ih => exact ih.record r
  | frame outer fault inner _ ih =>
      rw [List.append_assoc, List.append_assoc inner]
      exact ih.frame outer fault inner

/-- Where the frame was never entered, nothing is left out. -/
theorem Dissolves.refl (rs : List Record) : f.Dissolves rs rs := by
  induction rs with
  | nil => exact .nil
  | cons r rs ih => exact ih.record r

/-- One invocation that is left out. -/
theorem Dissolves.once (outer : List Span) (fault : Option Fault) (inner : List Record) :
    f.Dissolves (f.opening outer ++ inner.map (Record.behind outer.length f.span?.toList) ++
      f.closing fault outer) inner := by
  have honce := Dissolves.nil.frame (f := f) outer fault inner
  rwa [List.append_nil, List.append_nil] at honce

/-- The same records dissolve to the same ones, wherever a remark is told. -/
theorem piecewise_dissolves (f : Frame) (outer : List Span) :
    Likeness.Piecewise (fun rs rs' => f.Dissolves rs' rs) outer outer where
  append hrs hqs := hrs.append hqs
  remark _ _ := .refl _

/-! ### Frames inside a frame -/

variable (f) (outer more ws : List Span)

theorem opening_mapWithin (g : List Span → List Span)
    (hg : g (outer ++ f.span?.toList) = g outer ++ f.span?.toList) :
    (f.opening outer).map (Record.mapWithin g) = f.opening (g outer) := by
  have hstarted : (f.started (outer ++ f.span?.toList)).map (Record.mapWithin g) =
      f.started (g (outer ++ f.span?.toList)) := by
    cases f <;> rfl
  rw [opening, opening, List.map_append, hstarted, hg, List.map_map]
  rfl

theorem closing_mapWithin (g : List Span → List Span)
    (hg : g (outer ++ f.span?.toList) = g outer ++ f.span?.toList) (fault : Option Fault) :
    (f.closing fault outer).map (Record.mapWithin g) = f.closing fault (g outer) := by
  have hfailed : (f.failed fault (outer ++ f.span?.toList)).map (Record.mapWithin g) =
      f.failed fault (g (outer ++ f.span?.toList)) := by
    cases f <;> cases fault <;> rfl
  rw [closing, closing, List.map_append, hfailed, hg, List.map_map]
  rfl

/-- Spans that come in behind the outer ones stand before those of the open frames. -/
theorem behind_append :
    (outer ++ ws).take outer.length ++ more ++ (outer ++ ws).drop outer.length =
      outer ++ more ++ ws := by
  rw [List.take_left, List.drop_left]

/-- Turned record by record, remarks are told inside the further spans. -/
theorem piecewise_behind :
    Likeness.Piecewise (Likeness.Turned (Record.behind outer.length more)) outer
      (outer ++ more) :=
  Likeness.piecewise_turned fun r ws =>
    congrArg (Record.event (.remark r)) (behind_append outer more ws)

/-- What a frame tells on being entered, inside further spans. -/
theorem behind_opening :
    (f.opening (outer ++ ws)).map (Record.behind outer.length more) =
      f.opening (outer ++ more ++ ws) := by
  rw [← behind_append outer more ws]
  refine opening_mapWithin f (outer ++ ws) _ ?_
  rw [List.append_assoc outer ws, behind_append, behind_append, List.append_assoc _ ws]

/-- What a frame tells on being left, inside further spans. -/
theorem behind_closing (fault : Option Fault) :
    (f.closing fault (outer ++ ws)).map (Record.behind outer.length more) =
      f.closing fault (outer ++ more ++ ws) := by
  rw [← behind_append outer more ws]
  refine closing_mapWithin f (outer ++ ws) _ ?_ fault
  rw [List.append_assoc outer ws, behind_append, behind_append, List.append_assoc _ ws]

end Frame

section

variable [Payloads]

/-! ## Layers in groups -/

/-- The second group of layers is inside the first. -/
theorem chain_append (handler : Handler Payload Payload) (xs ys : List Layer) :
    chain handler (xs ++ ys) = chain (chain handler ys) xs := by
  rw [chain, List.map_append, decorate_append]
  rfl

def Stack.layers (s : Stack) : List Layer := StepId.all.map fun k => .step k (s.step k)

/-- A stack puts its frame around its steps. -/
theorem Stack.wrap_chain (s : Stack) (handler : Handler Payload Payload) (layers : List Layer)
    (v : Payload) (w : World) :
    let answered := chain handler (s.layers ++ layers) v (s.frame.enter w)
    s.wrap (chain handler layers) v w =
      (answered.1, s.frame.leave (fault? answered.1) answered.2) := by
  have hlayers : ∀ next, chain next s.layers = s.around next StepId.all := fun _ => rfl
  show s.invoke (chain handler layers) v w = _
  rw [s.invoke_eq, s.inward_eq, s.dismiss_eq, chain_append, hlayers]

/-! ## Runs inside and outside -/

namespace Likeness

/-- Where the same frames are open, the second observer is told of the invocations of `f` too. -/
abbrev outside (f : Frame) (outer : List Span) (past past' : List Record) : Likeness :=
  ofTold (since (f.piecewise_dissolves outer) past past')

/-- Since the second run entered `f`, both observers were told the same, but the second one
inside the span of `f`. -/
abbrev inside (f : Frame) (w w' : World) : Likeness :=
  ofTold (since (Frame.piecewise_behind w.spans f.span?.toList) w.trace
    (w'.trace ++ f.opening w.spans))

variable {f : Frame} {outer : List Span} {past past' : List Record} {place : List Frame}
  {w w' u u' : World}

/-- Other frames tell the same inside and outside of what is left out. -/
theorem frames_outside (g : Frame) : (outside f outer past past').Frames g g :=
  frames_since rfl rfl (fun _ => .refl _) fun _ _ => .refl _

/-- Frames inside tell the same, but each record inside the span of `f`. -/
theorem frames_inside (g : Frame) : (inside f w w').Frames g g :=
  frames_since rfl rfl
    (fun ws => (g.behind_opening w.spans f.span?.toList ws).symm)
    fun fault ws => (g.behind_closing w.spans f.span?.toList ws fault).symm

/-- The second run enters the frame. -/
theorem rel_inside (hkey : f.key? = none) (h : (outside f outer past past').Rel place w w') :
    (inside f w w').Rel [] w (f.enter w') := by
  obtain ⟨hquiet, hspans, hspans', -⟩ := h
  have hactive : w'.spans = w.spans := hspans'.trans hspans.symm
  have henter := f.quiet_enter w'
  rw [hkey] at henter
  refine ⟨hquiet.trans henter, ?_⟩
  rw [f.telling_enter, hactive]
  exact .nil rfl

/-- The second run leaves the frame. -/
theorem rel_outside (h : (outside f outer past past').Rel place w w')
    (hu : (inside f w w').Rel [] u u') (fault : Option Fault) :
    (outside f outer past past').Rel place u (f.leave fault u') := by
  obtain ⟨-, hspans, -, rs, rs', htrace, htrace', hdissolves⟩ := h
  obtain ⟨hquiet, hactive, hactive', qs, qs', hqs, hqs', rfl⟩ := hu
  dsimp only [World.telling] at htrace htrace' hqs'
  refine ⟨hquiet.trans (f.quiet_leave fault u'), ?_⟩
  rw [Frame.telling_leave fault (hactive'.trans (List.append_nil _))]
  refine ⟨?_, hspans, rs ++ qs, rs' ++ _, ?_, ?_, hdissolves.append (.once w.spans fault qs)⟩
  · exact (hactive.trans (List.append_nil _)).trans hspans
  · rw [hqs, htrace, List.append_assoc]
  · show u'.trace ++ f.closing fault w.spans = _
    rw [hqs', htrace']
    simp only [List.append_assoc]

/-- The five steps are alike to the stack around them. -/
theorem alike_dissolved (s : Stack) (t : Terminal) (layers : List Layer) :
    (outside s.frame outer past past').Alike (chain t.handler (s.layers ++ layers))
      (s.wrap (chain t.handler layers)) := by
  rintro place ⟨v, w⟩ ⟨v', w'⟩ ⟨hsame, hrel⟩
  obtain rfl : v = v' := hsame.symm
  -- the stack is entered and left in the second run alone
  have hcall : Agree ((inside s.frame w w').Rel []) (v, w) (v, s.frame.enter w') :=
    ⟨rfl, rel_inside rfl hrel⟩
  have hsteps := alike_ofTold frames_inside t (s.layers ++ layers) hcall
  rw [s.wrap_chain]
  exact ⟨hsteps.same, rel_outside hrel hsteps.rel (fault? _)⟩

/-- In a chain a stack is alike to its five steps. -/
theorem alike_flattened (s : Stack) (t : Terminal) (xs ys : List Layer) :
    (outside s.frame outer past past').Alike (chain t.handler (xs ++ s.layers ++ ys))
      (chain t.handler (xs ++ .stack s :: ys)) := by
  rw [List.append_assoc, chain_append, chain_append _ xs]
  exact wraps_ofTold frames_outside xs (alike_dissolved s t ys)

end Likeness

/-! ## One call after the other -/

/-- Calls the handler for one payload after the other, each time with a start of its own. -/
def eachFrom (handler : Handler Payload Payload) :
    List (Start × Payload) → World → List Outcome × World
  | [], w => ([], w)
  | c :: cs, w =>
    let one := invocation handler c.1 c.2 w
    let others := eachFrom handler cs one.2
    (one.1 :: others.1, others.2)

/-- Calls in two groups: the second goes on where the first has ended. -/
theorem eachFrom_append (handler : Handler Payload Payload) (cs ds : List (Start × Payload)) (w : World) :
    let before := eachFrom handler cs w
    let after := eachFrom handler ds before.2
    eachFrom handler (cs ++ ds) w = (before.1 ++ after.1, after.2) := by
  induction cs generalizing w with
  | nil => rfl
  | cons c cs ih => simp only [List.cons_append, eachFrom, ih]

/-- A session that invokes its stack does what a handler inside the stack does. -/
theorem Stack.Session.run_invokes (s : Session) (t : Terminal) (cs : List (Start × Payload)) :
    let all := eachFrom (s.stack.decorateHandler t.handler) cs s.world
    s.run (cs.map fun c => .invoke c.2 t (some c.1)) =
      (all.1.map .outcome, { s with world := all.2 }) := by
  induction cs generalizing s with
  | nil => rfl
  | cons c cs ih =>
      rw [List.map_cons, run, ih]
      rfl

/-- The state in which nothing was done or told yet, with the same spans and request counts. -/
def World.freshAfter (w : World) : World := { spans := w.spans, drawn := w.drawn }

/-- An invocation of a chain sees the request counts, and nothing else of what was before. -/
theorem invocation_fresh (t : Terminal) (layers : List Layer) (start : Start) (v : Payload)
    (w : World) :
    let one := invocation (chain t.handler layers) start v w
    let fresh := invocation (chain t.handler layers) start v w.freshAfter
    one.1 = fresh.1 ∧ fresh.2.Quiet one.2 ∧ one.2.spans = w.spans ∧
      one.2.trace = w.trace ++ fresh.2.trace := by
  have hsame : Likeness.Piecewise Eq w.spans w.spans :=
    ⟨fun hrs hqs => congrArg₂ (· ++ ·) hrs hqs, fun _ _ => rfl⟩
  let told := Likeness.since hsame [] w.trace
  have hframes : ∀ f, (Likeness.ofTold told).Frames f f :=
    fun f => Likeness.frames_since rfl rfl (fun _ => rfl) fun _ _ => rfl
  have hdrawn : w.drawn = w.freshAfter.drawn := rfl
  have hbegin : told.Rel [] w.freshAfter.telling w.telling := .nil rfl
  obtain ⟨houtcome, hquiet, -, hspans, rs, rs', htrace, htrace', rfl⟩ :=
    agree_invocation (Likeness.alike_ofTold hframes t layers) start v hdrawn hbegin
  refine ⟨houtcome, hquiet, hspans.trans (List.append_nil _), ?_⟩
  exact htrace'.trans (congrArg (w.trace ++ ·) (htrace.trans (List.nil_append _)).symm)

/-- Calls one after the other leave the active spans as they were. -/
theorem spans_eachFrom (t : Terminal) (layers : List Layer) (cs : List (Start × Payload))
    (w : World) : (eachFrom (chain t.handler layers) cs w).2.spans = w.spans := by
  induction cs generalizing w with
  | nil => rfl
  | cons c cs ih => exact (ih _).trans (invocation_fresh t layers c.1 c.2 w).2.2.1

/-- **Chains are put together in any grouping, and stacks in them are flat.**

1. Layers in two groups, and middleware in two groups, are around a handler what all of them
   are together; the first layer is around what the others make.
2. A chain with a stack goes the same way as the chain with the five steps of the stack in its
   place, in execution order: result or failure, log, context, flags, request counts and
   active spans are the same, and the observer is told the same apart from the frame of the
   stack: its span, this span among the active ones, and its failures.
3. A handler inside a stack is an invocation of the stack; called any number of times, with any
   payloads and starts, it does what the same number of invocations do.
4. Each of these calls does what it would do first of all, with a new trace and the requests
   made so far: nothing else is left of the calls before. -/
theorem chain_flattens :
    (∀ (handler : Handler Payload Payload) (xs ys : List Layer),
      chain handler (xs ++ ys) = chain (chain handler ys) xs) ∧
    (∀ {I O : Type} (handler : Handler I O) (ms ns : List (Middleware I O)),
      within handler (ms ++ ns) = within (within handler ns) ms) ∧
    (∀ (handler : Handler Payload Payload) (l : Layer) (xs : List Layer),
      chain handler (l :: xs) = l.wrap (chain handler xs)) ∧
    (∀ (t : Terminal) (xs ys : List Layer) (s : Stack) (v : Payload) (w : World),
      let nested := chain t.handler (xs ++ .stack s :: ys) v w
      let flat := chain t.handler (xs ++ s.layers ++ ys) v w
      nested.1 = flat.1 ∧ flat.2.Quiet nested.2 ∧ nested.2.spans = flat.2.spans ∧
      ∃ rs rs', nested.2.trace = w.trace ++ rs ∧ flat.2.trace = w.trace ++ rs' ∧
        s.frame.Dissolves rs rs') ∧
    (∀ (s : Stack) (handler : Handler Payload Payload),
      s.decorateHandler handler = s.invoke handler) ∧
    (∀ (s : Stack.Session) (t : Terminal) (cs : List (Start × Payload)),
      let all := eachFrom (s.stack.decorateHandler t.handler) cs s.world
      s.run (cs.map fun c => .invoke c.2 t (some c.1)) =
        (all.1.map .outcome, { s with world := all.2 })) ∧
    ∀ (s : Stack) (t : Terminal) (cs : List (Start × Payload)) (c : Start × Payload) (w : World),
      let handler := s.decorateHandler t.handler
      let before := eachFrom handler cs w
      let all := eachFrom handler (cs ++ [c]) w
      let fresh := invocation (s.invoke t.handler) c.1 c.2
        { spans := w.spans, drawn := before.2.drawn }
      all.1 = before.1 ++ [fresh.1] ∧ fresh.2.Quiet all.2 ∧ all.2.spans = w.spans ∧
        all.2.trace = before.2.trace ++ fresh.2.trace := by
  refine ⟨chain_append, within_append, fun _ _ _ => rfl, fun t xs ys s v w => ?_,
    fun _ _ => rfl, fun s t cs => s.run_invokes t cs, fun s t cs c w => ?_⟩
  · intro nested flat
    have hcall : Agree ((Likeness.outside s.frame w.spans w.trace w.trace).Rel []) (v, w) (v, w) :=
      ⟨rfl, .refl w, .nil .nil⟩
    obtain ⟨hanswer, hquiet, hspans, hspans', rs, rs', htrace, htrace', hdissolves⟩ :=
      Likeness.alike_flattened s t xs ys hcall
    exact ⟨hanswer, hquiet, hspans'.trans hspans.symm, rs', rs, htrace', htrace, hdissolves⟩
  · intro handler before all fresh
    have hall : all = (before.1 ++ [_], _) := eachFrom_append handler cs [c] w
    have hspans : before.2.spans = w.spans := spans_eachFrom t [.stack s] cs w
    obtain ⟨houtcome, hquiet, hactive, htrace⟩ :=
      invocation_fresh t [.stack s] c.1 c.2 before.2
    rw [World.freshAfter, hspans] at houtcome hquiet htrace
    rw [hall]
    exact ⟨congrArg (before.1 ++ [·]) houtcome, hquiet, hactive.trans hspans, htrace⟩

end

/-- What is told of a stack that fails, by what is told of its steps. -/
example :
    let s : Stack := { Stack.new ⟨"stack", false⟩ (.counting 0) with instrument := true }
    let offline : Terminal := fun _ => .fail (.raised "Offline" "no answer")
    let told := fun layers => (chain offline.handler layers Value.unit {}).2.trace
    told [.stack s] =
      .opened (.stack "stack") [] ::
        ((told s.layers).map (Record.behind 0 [.stack "stack"]) ++
          [.event (.stackFailed "stack" "no answer") [.stack "stack"],
            .closed (.stack "stack") []]) := by
  decide +kernel

end OpStack
