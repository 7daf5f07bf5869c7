import OpStack.Proofs.Registry.Journal
import OpStack.Proofs.Stack.Sessions
import OpStack.Value.Source

/-!
# OpStack.Proofs.Stack.PassThrough

Middleware that pass through: they call the next handler once, with the input that they were
given, and end with what comes back.  A list of middleware with such a one among them is the
list without it (`Passing.within_insertIdx`), and the same calls get through
(`Passing.arrivals_insertIdx`).  The step that holds it counts one middleware more, and this
is all that anybody is told of it (`Record.oneMore`).

An empty step is one with nothing to pass through: it answers as the handler outside does
(`Step.wrap_of_empty`).
-/

namespace OpStack

/-! ## Records of a start -/

/-- The record with one middleware more, if it tells a start of the step `k`. -/
def Record.oneMore (k : StepId) : Record → Record
  | event (.stepStarted j n) ws => event (.stepStarted j (if j = k then n + 1 else n)) ws
  | r => r

/-- Remarks count no middleware. -/
theorem Likeness.piecewise_oneMore (k : StepId) (outer : List Span) :
    Piecewise (Turned (Record.oneMore k)) outer outer :=
  piecewise_turned fun _ _ => rfl

section

variable [Payloads] {I O : Type} {k : StepId}

/-! ## Lists of middleware -/

/-- The middleware calls the next handler once, with its own input, and ends with the answer
of this call. -/
def Middleware.Passing (m : Middleware I O) : Prop := ∀ input, m.body input = .call input .finish

def Middleware.passing (id : String) : Middleware I O := ⟨id, fun input => .call input .finish⟩

namespace Middleware.Passing

variable {m : Middleware I O}

/-- The handler inside is called as if the middleware were not there. -/
theorem wrap_eq (hm : m.Passing) (next : Handler I O) : m.wrap next = next := by
  funext input w
  rw [Middleware.wrap, hm]
  rfl

/-- The call goes on as it came. -/
theorem calls_eq (hm : m.Passing) (next : Handler I O) (c : Call I) :
    (m.body c.1).calls next c.2 = [c] := by
  rw [hm]
  rfl

/-- The handler inside is the same wherever the middleware stands. -/
theorem within_insertIdx (hm : m.Passing) (handler : Handler I O) (ms : List (Middleware I O))
    (i : Nat) : within handler (ms.insertIdx i m) = within handler ms := by
  induction ms generalizing i with
  | nil =>
      cases i with
      | zero => exact hm.wrap_eq handler
      | succ i => rfl
  | cons n ms ih =>
      cases i with
      | zero => exact hm.wrap_eq (within handler (n :: ms))
      | succ i => rw [List.insertIdx_succ_cons, within_cons, within_cons, ih]

/-- The calls that arrive are those without it. -/
theorem arrivals_cons (hm : m.Passing) (handler : Handler I O) (ms : List (Middleware I O))
    (c : Call I) : arrivals handler (m :: ms) c = arrivals handler ms c := by
  rw [arrivals, hm.calls_eq, List.flatMap_singleton]

/-- The same calls arrive wherever the middleware stands. -/
theorem arrivals_insertIdx (hm : m.Passing) (handler : Handler I O) (ms : List (Middleware I O))
    (i : Nat) (c : Call I) :
    arrivals handler (ms.insertIdx i m) c = arrivals handler ms c := by
  induction ms generalizing i c with
  | nil =>
      cases i with
      | zero => exact hm.arrivals_cons handler [] c
      | succ i => rfl
  | cons n ms ih =>
      cases i with
      | zero => exact hm.arrivals_cons handler (n :: ms) c
      | succ i =>
          have hrest : arrivals handler (ms.insertIdx i m) = arrivals handler ms := funext (ih i)
          rw [List.insertIdx_succ_cons, arrivals, arrivals, hm.within_insertIdx, hrest]

end Middleware.Passing

/-! ## Steps -/

namespace Step

def inserting (s : Step k) (i : Nat) (m : Middleware k.Input k.Output) : Step k :=
  { s with members := s.members.placeAt i m.id m }

/-- The middleware stands at its place. -/
theorem order_inserting (s : Step k) (i : Nat) (m : Middleware k.Input k.Output) :
    (s.inserting i m).members.order = s.members.order.insertIdx i m :=
  s.members.order_placeAt i m.id m

theorem size_inserting (s : Step k) {i : Nat} (hi : i ≤ s.members.size)
    (m : Middleware k.Input k.Output) :
    (s.inserting i m).members.size = s.members.size + 1 :=
  List.length_insertIdx_of_le_length hi _

def Op.Brings (m : Middleware k.Input k.Output) : Op k → Prop
  | add m' _ | insert m' _ _ => m' = m
  | swap .. | remove _ | clear | contains _ | setInstrument _ | info => False

/-- A change of the middleware that is done leaves the places edited. -/
theorem Performed.edited_of_done {s : Step k}
    {change : Except Error (Registry.Change (Middleware k.Input k.Output) Unit)}
    (hdone : (ofMembers s (.ofChange s.members (fun _ => .done) change)).reply = .done) :
    ∃ c, change = .ok c ∧ (ofMembers s (.ofChange s.members (fun _ => .done) change)).step =
      { s with members := s.members.edited c.edits } := by
  cases change with
  | ok c => exact ⟨c, rfl, rfl⟩
  | error e => cases hdone

/-- A middleware that is brought in stands at some place afterwards. -/
theorem Op.exists_inserting {op : Op k} {m : Middleware k.Input k.Output} (hop : op.Brings m)
    {s : Step k} (hdone : (op.perform s).reply = .done) :
    ∃ i ≤ s.members.size, (op.perform s).step = s.inserting i m := by
  cases op with
  | add m' position =>
      obtain rfl : m' = m := hop
      obtain ⟨c, hadd, hstep⟩ := Performed.edited_of_done hdone
      obtain ⟨i, hi, rfl⟩ := Registry.change_of_add hadd
      exact ⟨i, hi, hstep⟩
  | insert m' anchor position =>
      obtain rfl : m' = m := hop
      obtain ⟨c, hinsert, hstep⟩ := Performed.edited_of_done hdone
      obtain ⟨i, hi, rfl⟩ := Registry.change_of_insert hinsert
      exact ⟨i, hi, hstep⟩
  | swap | remove | clear | contains | setInstrument | info => exact hop.elim

/-! ### Empty steps -/

/-- The call that goes through an empty step: the one that came, but in the serialize step
that of a request that is made for it. -/
def through (s : Step k) (c : Call Payload) : Call Payload :=
  let entered := k.enter s.source c.1 c.2
  (k.forward entered.1, entered.2)

/-- Only the serialize step changes what goes through it. -/
theorem through_of_ne (hk : k ≠ .serialize) (s : Step k) (c : Call Payload) : s.through c = c := by
  cases k with
  | serialize => exact absurd rfl hk
  | init | build | finalize | deserialize => rfl

/-- An empty step answers what the handler outside answers. -/
theorem wrap_of_empty (s : Step k) (hs : s.members.order = []) (next : Handler Payload Payload)
    (c : Call Payload) :
    let answered := next (s.through c).1 (s.frame.enter c.2)
    s.wrap next c.1 c.2 = (answered.1, s.frame.leave (fault? answered.1) answered.2) := by
  intro answered
  have hcomplete : ∀ answer : Except Fault Payload, (answer.map k.complete).map k.exit = answer := by
    intro answer
    cases answer with
    | ok v => exact congrArg Except.ok (k.exit_complete v)
    | error e => rfl
  have houtward : k.outward next (s.inward c).1 (s.inward c).2 =
      (answered.1.map k.complete, answered.2) := by
    rw [s.inward_snd]
    rfl
  rw [wrap_eq, hs, within_nil, houtward, dismiss_eq, fault?_map, hcomplete]

/-- Apart from the trace, nothing else is done in an empty step. -/
theorem quiet_through (s : Step k) (c : Call Payload) :
    (s.through c).2.Quiet (s.frame.enter c.2) := by
  have hthrough : (s.through c).2 = s.frame.key?.elim c.2 c.2.drawUnder := by cases k <;> rfl
  rw [hthrough]
  exact s.frame.quiet_enter c.2

end Step

/-- A chain answers an empty step as it answers the call that goes through it: it sees neither
trace nor spans. -/
theorem agree_wrap_of_empty (s : Step k) (hs : s.members.order = []) (t : Terminal)
    (layers : List Layer) (c : Call Payload) :
    let handler := chain t.handler layers
    Agree World.Quiet (handler (s.through c).1 (s.through c).2) (s.wrap handler c.1 c.2) := by
  intro handler
  let L : Likeness := .ofTold ⟨fun _ _ _ => True, fun _ => id⟩
  have hframes : ∀ f, L.Frames f f :=
    fun f => Likeness.frames_ofTold rfl (fun _ => trivial) fun _ _ => trivial
  have hhandler : L.Alike handler handler := Likeness.alike_ofTold hframes t layers
  have hinside : Agree (L.Rel []) (s.through c) ((s.through c).1, s.frame.enter c.2) :=
    ⟨rfl, s.quiet_through c, trivial⟩
  have hanswered := hhandler hinside
  let answered := handler (s.through c).1 (s.frame.enter c.2)
  rw [s.wrap_of_empty hs]
  exact ⟨hanswered.same,
    hanswered.rel.1.trans (s.frame.quiet_leave (fault? answered.1) answered.2)⟩

/-! ## Stacks -/

namespace Likeness

/-- Since the state `w`, the second observer was told of one middleware more in the step `k`. -/
abbrev oneMore (w : World) (k : StepId) : Accord :=
  since (piecewise_oneMore k w.spans) w.trace w.trace

variable (w : World) (k)

/-- A stack tells the same. -/
theorem frames_oneMore_stack (id : String) (own : Bool) :
    (ofTold (oneMore w k)).Frames (.stack id own) (.stack id own) := by
  refine frames_since rfl rfl (fun ws => ?_) fun fault ws => ?_
  · cases own <;> rfl
  · cases own <;> cases fault <;> rfl

/-- A step tells of one middleware more, if it is the one. -/
theorem frames_oneMore_step (j : StepId) (own : Bool) (n : Nat) (key : Option Nat) :
    (ofTold (oneMore w k)).Frames (.step j own n key)
      (.step j own (if j = k then n + 1 else n) key) := by
  refine frames_since rfl rfl (fun ws => ?_) fun fault ws => ?_
  · cases own <;> rfl
  · cases own <;> rfl

end Likeness

/-- In the second stack the step `k` has a middleware more, at the place `i`. -/
structure Stack.Inserted (i : Nat) (m : Middleware k.Input k.Output) (s s' : Stack) : Prop where
  place : i ≤ (s.step k).members.size
  eq : s' = s.withStep k ((s.step k).inserting i m)

namespace Stack.Inserted

variable {i : Nat} {m : Middleware k.Input k.Output} {s s' : Stack}

/-- What holds of the step with the middleware, and of steps that stay, holds of all steps. -/
theorem step (h : s.Inserted i m s') {p : (j : StepId) → Step j → Step j → Prop}
    (hhere : ∀ t : Step k, i ≤ t.members.size → p k t (t.inserting i m))
    (hother : ∀ j, j ≠ k → ∀ t : Step j, p j t t) (j : StepId) : p j (s.step j) (s'.step j) := by
  rw [h.eq]
  by_cases hj : j = k
  · subst hj
    rw [step_withStep]
    exact hhere _ h.place
  · rw [step_withStep_of_ne s _ hj]
    exact hother j hj _

variable (w : World)

/-- No source is changed. -/
theorem source (h : s.Inserted i m s') (j : StepId) : (s'.step j).source = (s.step j).source :=
  h.step (p := fun _ t t' => t'.source = t.source) (fun _ _ => rfl) (fun _ _ _ => rfl) j

theorem frame (h : s.Inserted i m s') :
    (Likeness.ofTold (Likeness.oneMore w k)).Frames s.frame s'.frame := by
  have hframe : s'.frame = s.frame := by
    rw [h.eq]
    cases k <;> rfl
  rw [hframe]
  exact Likeness.frames_oneMore_stack k w s.id s.instrument

/-- The frames of both stacks are entered and left alike. -/
theorem frames (h : s.Inserted i m s') (j : StepId) :
    (Likeness.ofTold (Likeness.oneMore w k)).Frames (s.step j).frame (s'.step j).frame := by
  refine h.step (p := fun _ t t' => (Likeness.ofTold (Likeness.oneMore w k)).Frames t.frame t'.frame)
    (fun t hi => ?_) (fun j hj t => ?_) j
  -- the step counts one middleware more where it holds the new one, and as many elsewhere
  · have hframe := Likeness.frames_oneMore_step k w k t.instrument t.members.size
      (k.key? t.source)
    rw [if_pos rfl, ← t.size_inserting hi m] at hframe
    exact hframe
  · have hframe := Likeness.frames_oneMore_step k w j t.instrument t.members.size
      (j.key? t.source)
    rwa [if_neg hj] at hframe

variable (hm : m.Passing)
include hm

/-- The chains of both stacks keep handlers alike. -/
theorem wraps_within (h : s.Inserted i m s') (j : StepId) :
    (Likeness.ofTold (Likeness.oneMore w k)).Wraps (within · (s.step j).members.order)
      (within · (s'.step j).members.order) := by
  have hwithin : ∀ handler, within handler (s'.step j).members.order =
      within handler (s.step j).members.order :=
    h.step (p := fun _ t t' => ∀ handler,
        within handler t'.members.order = within handler t.members.order)
      (fun t _ handler => by rw [t.order_inserting, hm.within_insertIdx])
      (fun _ _ _ _ => rfl) j
  simp only [hwithin]
  exact Likeness.wraps_within fun n _ => Likeness.does_middleware n

/-- The same calls get through the chains of both stacks. -/
theorem passes (h : s.Inserted i m s') (j : StepId) :
    (Likeness.ofTold (Likeness.oneMore w k)).Passes (s.step j).members.order
      (s'.step j).members.order := by
  have harrivals : ∀ handler c, arrivals handler (s'.step j).members.order c =
      arrivals handler (s.step j).members.order c :=
    h.step (p := fun _ t t' => ∀ handler c,
        arrivals handler t'.members.order c = arrivals handler t.members.order c)
      (fun t _ handler c => by rw [t.order_inserting, hm.arrivals_insertIdx])
      (fun _ _ _ _ _ => rfl) j
  intro handler handler' hhandler place c c' hc
  rw [harrivals]
  exact Likeness.passes_middleware (fun n _ => Likeness.does_middleware n) hhandler hc

/-- The stacks are alike to the caller. -/
theorem wraps (h : s.Inserted i m s') :
    (Likeness.ofTold (Likeness.oneMore w k)).Wraps s.wrap s'.wrap :=
  Likeness.wraps_stack (h.frame w) fun j =>
    Likeness.wraps_step (h.source j) (h.frames w j) (h.wraps_within w hm j)

/-- The stacks are alike to the handler inside. -/
theorem calls (h : s.Inserted i m s') (t : Terminal) {c c' : Call Payload}
    (hc : Agree ((Likeness.ofTold (Likeness.oneMore w k)).Rel []) c c') :
    List.Forall₂ (Agree World.Quiet) (s.calls t.handler c) (s'.calls t.handler c') := by
  have hall := Likeness.agree_stackCalls (h.frame w) h.source (h.frames w) (h.wraps_within w hm)
    (h.passes w hm) (Likeness.alike_terminal (Likeness.does_terminal t)) hc
  exact hall.imp fun _ _ hcall => ⟨hcall.same, hcall.rel.1⟩

end Stack.Inserted

/-! ## Sessions -/

namespace Stack.Session

/-- **Middleware that pass through are not noticed.**  Whatever stands around it,

1. a middleware that passes through, at any place of any step of a stack, changes nothing in a
   run of invocations: the caller is told the same results, failures and logs; the context,
   flags and request counts that are left are the same, at the end and so after any beginning
   of the run; the terminals are called with the same payloads in the same states; to the
   observer the starts of this step tell of one middleware more, and all other records are the
   same;
2. this is how a step holds a middleware that was added or inserted;
3. a step without middleware answers what the handler outside answers to the same payload, or
   in the serialize step to a request that is made for it: any handler in the state inside the
   step, and a chain in the state in which it would be called without the step. -/
theorem passing_unnoticed (k : StepId) (m : Middleware k.Input k.Output) (hm : m.Passing) :
    (∀ (s : Session) (i : Nat) (ops : List Op), i ≤ (s.stack.step k).members.size →
      (∀ op ∈ ops, op.invokes = true) →
      let longer := { s with stack := s.stack.withStep k ((s.stack.step k).inserting i m) }
      let one := s.run ops
      let other := longer.run ops
      other.1 = one.1 ∧ other.2.shared = one.2.shared ∧ one.2.world.Quiet other.2.world ∧
      List.Forall₂ (Agree World.Quiet) (s.allCalls ops) (longer.allCalls ops) ∧
      ∃ rs, one.2.world.trace = s.world.trace ++ rs ∧
        other.2.world.trace = s.world.trace ++ rs.map (Record.oneMore k)) ∧
    (∀ (s : Step k) (op : Step.Op k), op.Brings m → (op.perform s).reply = .done →
      ∃ i ≤ s.members.size, (op.perform s).step = s.inserting i m) ∧
    (∀ s : Step k, s.members.order = [] →
      (∀ (next : Handler Payload Payload) (c : Call Payload),
        let answered := next (s.through c).1 (s.frame.enter c.2)
        s.wrap next c.1 c.2 = (answered.1, s.frame.leave (fault? answered.1) answered.2)) ∧
      (∀ (t : Terminal) (layers : List Layer) (c : Call Payload),
        let handler := chain t.handler layers
        Agree World.Quiet (handler (s.through c).1 (s.through c).2)
          (s.wrap handler c.1 c.2)) ∧
      (k ≠ .serialize → ∀ c, s.through c = c)) ∧
    ∀ (s : Step .serialize) (c : Call Payload), s.through c = s.source.draw c.2 := by
  refine ⟨fun s i ops hi hops => ?_, fun s op hop hdone => Step.Op.exists_inserting hop hdone,
    fun s hs => ⟨s.wrap_of_empty hs, agree_wrap_of_empty s hs, fun hk => s.through_of_ne hk⟩,
    fun _ _ => rfl⟩
  intro longer one other
  have hstart : Beside (Likeness.oneMore s.world k) (Stack.Inserted i m) s longer :=
    ⟨⟨hi, rfl⟩, rfl, rfl, .refl _, .nil rfl⟩
  have hkin : ∀ {t t' : Stack}, t.Inserted i m t' →
      (Likeness.ofTold (Likeness.oneMore s.world k)).Wraps t.wrap t'.wrap :=
    fun h => h.wraps s.world hm
  have hrun : Agree (Beside (Likeness.oneMore s.world k) (Stack.Inserted i m)) one other :=
    agree_run (fun op hop _ _ h => agree_perform hkin (hops op hop) h) hstart
  obtain ⟨rs, rs', htrace, htrace', hturned⟩ := hrun.rel.world.2.trace
  exact ⟨hrun.same, hrun.rel.shared, hrun.rel.world.1,
    agree_allCalls hkin (fun h t _ _ hc => h.calls s.world hm t hc) hops hstart,
    rs, htrace, hturned ▸ htrace'⟩

end Stack.Session

end

namespace Stack.Session

/-- Behind a middleware that tries again, around a handler that is offline. -/
theorem unnoticed_behind_retry :
    let retry : Middleware Request Response :=
      ⟨"retry", fun i => .call i fun _ => .call i .finish⟩
    let m : Middleware Request Response := .passing "through"
    let stack : Stack := .holding { id := "stack" } (.counting 0) fun k => match k with
      | .build => [retry]
      | _ => []
    let s : Session := { stack }
    let longer := { s with stack := stack.withStep .build (stack.build.inserting 1 m) }
    let t : Terminal := fun _ => .act (.note ⟨"handler", "call", .null⟩) fun _ =>
      .fail (.raised "Offline" "connection reset")
    let ops := [Op.invoke Value.unit t none, .decorate [Value.unit, Value.bool true] t]
    let empty : Step .finalize := { source := () }
    m.Passing ∧ 1 ≤ stack.build.members.size ∧ (∀ op ∈ ops, op.invokes = true) ∧
    (longer.run ops).1 = (s.run ops).1 ∧
    List.Forall₂ (Agree World.Quiet) (s.allCalls ops) (longer.allCalls ops) ∧
    (s.allCalls ops).length = 6 ∧
    (∃ i ≤ stack.build.members.size,
      (Step.Op.perform stack.build (.add m .after)).step = stack.build.inserting i m) ∧
    (empty.wrap t.handler Value.unit {}).1 = .error (.raised "Offline" "connection reset") := by
  intro retry m stack s longer t ops empty
  have hm : m.Passing := fun _ => rfl
  have hsize : 1 ≤ stack.build.members.size := Nat.le_refl 1
  have hops : ∀ op ∈ ops, op.invokes = true := by
    intro op hop
    rcases List.mem_cons.mp hop with rfl | hop
    · rfl
    · rw [List.mem_singleton.mp hop]
      rfl
  obtain ⟨hruns, hadded, -, -⟩ := passing_unnoticed .build m hm
  obtain ⟨hreplies, -, -, hcalls, -⟩ := hruns s 1 ops hsize hops
  obtain ⟨-, -, hempty, -⟩ := passing_unnoticed .finalize (.passing "through") fun _ => rfl
  obtain ⟨hanswer, -⟩ := hempty empty rfl
  have hdone : (Step.Op.perform stack.build (.add m .after)).reply = .done := by decide +kernel
  have hsix : (s.allCalls ops).length = 6 := by decide +kernel
  exact ⟨hm, hsize, hops, hreplies, hcalls, hsix, hadded _ _ rfl hdone,
    congrArg Prod.fst (hanswer t.handler (Value.unit, {}))⟩

end Stack.Session

end OpStack
