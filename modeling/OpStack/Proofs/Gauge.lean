import Mathlib
import OpStack.Proofs.Arrivals

/-!
# OpStack.Proofs.Gauge

Numbers that are read off the state, and what a run adds to them.  A `Gauge` is not moved by
spans, nor by which context is at hand, so only what behaviours do (`Gauge.weight`), the handler
and the entrances of the steps are left to move it:

* `Gauge.drawn key` — the requests made under a key, moved where the serialize step draws
  from a source with this key;
* `Gauge.starts k` — the starts told of the step `k`, moved where it is entered;
* `Gauge.noted name` — the notes in the log under a name, moved by whoever writes them.

`Gauge.read_invoke` adds up what an invocation makes of a gauge that behaviours do not move, over
`Stack.entries` and `Stack.calls`: these lists hold the calls that a run makes, each as often as
it is made.  `Gauge.read_invoke_visits` does so for `Stack.visits` with a gauge that is moved by
a single middleware.
-/

namespace OpStack

variable {I O α β : Type}

/-! ## Sums -/

/-- A sum over parts is the sum of their sums. -/
theorem sum_flatMap (d : β → Nat) (parts : α → List β) (xs : List α) :
    ((xs.flatMap parts).map d).sum = (xs.map fun x => ((parts x).map d).sum).sum := by
  induction xs with
  | nil => rfl
  | cons x xs ih =>
      rw [List.flatMap_cons, List.map_append, List.sum_append, ih, List.map_cons, List.sum_cons]

/-- A number that is added to every summand counts them. -/
theorem sum_const_add (n : Nat) (d : α → Nat) (xs : List α) :
    (xs.map fun x => n + d x).sum = n * xs.length + (xs.map d).sum := by
  rw [List.sum_map_add, List.map_const', List.sum_replicate_nat, Nat.mul_comm]

variable [Payloads]

/-! ## Gauges -/

/-- A number read off the state that neither spans nor the context at hand change. -/
structure Gauge where
  read : World → Nat
  /-- What an effect adds. -/
  weight : Effect → Nat
  read_effect (e : Effect) (w : World) : read (e.apply w).2 = read w + weight e
  read_offer (w : World) (c : Option Nat) : read (w.offer c) = read w
  read_openSpan (span : Span) (w : World) : read (w.openSpan span) = read w
  read_closeSpan (span : Span) (w : World) : read (w.closeSpan span) = read w
  read_stackFailed (id text : String) (w : World) :
    read (w.tell (.stackFailed id text)) = read w

/-- What the effects of a run of the behaviour weigh together. -/
def Behaviour.weigh (weight : Effect → Nat) (next : Handler I O) :
    Behaviour I O α → World → Nat
  | finish _, _ => 0
  | callOn c input resume, w =>
    let answered := w.lend c (next input)
    (resume answered.1).weigh weight next answered.2
  | actOn c e resume, w =>
    let applied := w.lend c e.apply
    weight e + (resume applied.1).weigh weight next applied.2

/-- Whenever it is entered, the middleware moves the gauge by `n` itself. -/
def Middleware.Moves (m : Middleware I O) (g : Gauge) (n : Nat) : Prop :=
  ∀ (input : I) (next : Handler I O) (w : World), (m.body input).weigh g.weight next w = n

namespace Gauge

/-- No effect moves the gauge. -/
def Still (g : Gauge) : Prop := ∀ e, g.weight e = 0

/-- The handler adds `d c` in the call `c`. -/
def Adds (g : Gauge) (handler : Handler I O) (d : Call I → Nat) : Prop :=
  ∀ c, g.read (handler c.1 c.2).2 = g.read c.2 + d c

variable {g : Gauge}

/-- No middleware moves a gauge that no effect moves. -/
theorem Still.moves (hg : g.Still) (m : Middleware I O) : m.Moves g 0 := by
  have hweigh : ∀ (next : Handler I O) (b : Behaviour I O O) (w : World),
      b.weigh g.weight next w = 0 := by
    intro next b
    induction b with
    | finish result => exact fun _ => rfl
    | callOn c input resume ih => exact fun w => ih _ _
    | actOn c e resume ih =>
        intro w
        rw [Behaviour.weigh, hg e, ih, Nat.zero_add]
  exact fun input next w => hweigh next (m.body input) w

theorem Adds.congr {handler : Handler I O} {d d' : Call I → Nat} (h : g.Adds handler d)
    (hd : ∀ c, d c = d' c) : g.Adds handler d' :=
  fun c => hd c ▸ h c

/-! ## Behaviours and lists of middleware -/

theorem read_lend (w : World) (c : Option Nat) (body : World → α × World) :
    g.read (w.lend c body).2 = g.read (body (w.offer c)).2 := g.read_offer _ _

/-- A behaviour adds what its own effects weigh, and what its calls of the next handler add. -/
theorem read_run {next : Handler I O} {d : Call I → Nat} (hnext : g.Adds next d)
    (b : Behaviour I O α) (w : World) :
    g.read (b.run next w).2 =
      g.read w + (b.weigh g.weight next w + ((b.calls next w).map d).sum) := by
  induction b generalizing w with
  | finish result => rfl
  | callOn c input resume ih =>
      rw [Behaviour.run, ih, read_lend, hnext (input, w.offer c), g.read_offer, Behaviour.calls,
        Behaviour.weigh, List.map_cons, List.sum_cons]
      omega
  | actOn c e resume ih =>
      rw [Behaviour.run, ih, read_lend, g.read_effect, g.read_offer, Behaviour.calls,
        Behaviour.weigh]
      omega

/-- A middleware adds what it does itself, and what the next handler adds in its calls. -/
theorem Adds.wrap {next : Handler I O} {d : Call I → Nat} (hd : g.Adds next d)
    {m : Middleware I O} {n : Nat} (hm : m.Moves g n) :
    g.Adds (m.wrap next) fun c => n + (((m.body c.1).calls next c.2).map d).sum := by
  intro c
  show g.read ((m.body c.1).run next c.2).2 = _
  rw [read_run hd, hm]

/-- A list of middleware adds what the handler inside adds in the calls that arrive. -/
theorem Adds.within {handler : Handler I O} {d : Call I → Nat} (hd : g.Adds handler d)
    {ms : List (Middleware I O)} (hms : ∀ m ∈ ms, m.Moves g 0) :
    g.Adds (within handler ms) fun c => ((arrivals handler ms c).map d).sum := by
  induction ms with
  | nil => exact hd.congr fun c => by simp [arrivals]
  | cons m ms ih =>
      have hrest := ih fun m' hm' => hms m' (List.mem_cons_of_mem m hm')
      refine (hrest.wrap (hms m List.mem_cons_self)).congr fun c => ?_
      rw [Nat.zero_add, arrivals, sum_flatMap]

/-- Where nobody adds anything, nothing is added. -/
theorem Adds.within_zero {handler : Handler I O} (hd : g.Adds handler fun _ => 0)
    {ms : List (Middleware I O)} (hms : ∀ m ∈ ms, m.Moves g 0) :
    g.Adds (OpStack.within handler ms) fun _ => 0 :=
  (hd.within hms).congr fun c => by simp

/-! ## Steps -/

/-- Going out of a step adds nothing. -/
theorem Adds.outward (k : StepId) {next : Handler Payload Payload} {d : Call Payload → Nat}
    (hd : g.Adds next d) : g.Adds (k.outward next) fun c => d (k.forward c.1, c.2) :=
  fun c => hd (k.forward c.1, c.2)

theorem read_stepDismiss {k : StepId} (s : Step k) (answered : Except Fault k.Output × World) :
    g.read (s.dismiss answered).2 = g.read answered.2 := by
  rw [Step.dismiss]
  split
  · exact g.read_closeSpan _ _
  · rfl

/-- A step adds what is added on entering it, and what its chain adds. -/
theorem Adds.step {k : StepId} {s : Step k} {n : Nat}
    (hinward : ∀ c, g.read (s.inward c).2 = g.read c.2 + n) {next : Handler Payload Payload}
    {d : Call k.Input → Nat} (hd : g.Adds (OpStack.within (k.outward next) s.members.order) d) :
    g.Adds (s.wrap next) fun c => n + d (s.inward c) := by
  intro c
  show _ = g.read c.2 + (n + d (s.inward c))
  rw [Step.wrap_eq, read_stepDismiss, hd (s.inward (c.1, c.2)), hinward, Nat.add_assoc]

/-- If its middleware do not move the gauge, a step adds what is added on entering it, and what
the next handler adds in the calls that leave it. -/
theorem Adds.stepWrap {k : StepId} {s : Step k} {n : Nat}
    (hinward : ∀ c, g.read (s.inward c).2 = g.read c.2 + n)
    (hs : ∀ m ∈ s.members.order, m.Moves g 0) {next : Handler Payload Payload}
    {d : Call Payload → Nat} (hd : g.Adds next d) :
    g.Adds (s.wrap next) fun c => n + ((s.arrivals next c).map d).sum := by
  refine (Adds.step hinward ((hd.outward k).within hs)).congr fun c => ?_
  rw [Step.arrivals, List.map_map]
  rfl

/-! ## Stacks -/

/-- Steps that leave the gauge alone add what the handler inside adds. -/
theorem Adds.around {s : Stack} {ks : List StepId}
    (hks : ∀ k ∈ ks, ∀ c, g.read ((s.step k).inward c).2 = g.read c.2)
    (hms : ∀ k ∈ ks, ∀ m ∈ (s.step k).members.order, m.Moves g 0)
    {handler : Handler Payload Payload} {d : Call Payload → Nat} (hd : g.Adds handler d) :
    g.Adds (s.around handler ks) fun c => ((s.reach handler ks c).map d).sum := by
  induction ks with
  | nil => exact hd.congr fun c => by simp [Stack.reach]
  | cons k ks ih =>
      have hrest := ih (fun j hj => hks j (List.mem_cons_of_mem k hj))
        (fun j hj => hms j (List.mem_cons_of_mem k hj))
      refine (Adds.stepWrap (n := 0) (hks k List.mem_cons_self) (hms k List.mem_cons_self)
        hrest).congr fun c => ?_
      rw [Nat.zero_add, Stack.reach, sum_flatMap]

theorem read_stackInward (s : Stack) (c : Call Payload) : g.read (s.inward c).2 = g.read c.2 := by
  rw [Stack.inward]
  split
  · exact g.read_openSpan _ _
  · rfl

theorem read_stackDismiss (s : Stack) (answered : Except Fault Payload × World) :
    g.read (s.dismiss answered).2 = g.read answered.2 := by
  have hreport : g.read (s.report answered).2 = g.read answered.2 := by
    obtain ⟨answer, w⟩ := answered
    cases answer with
    | ok v => rfl
    | error e => exact g.read_stackFailed _ _ _
  rw [← hreport, Stack.dismiss]
  split
  · exact g.read_closeSpan _ _
  · rfl

/-- An invocation adds what the step `k` adds in the calls that enter it, if the steps before it
leave the gauge alone. -/
theorem Adds.invoke {s : Stack} {k : StepId}
    (hks : ∀ j ∈ k.earlier, ∀ c, g.read ((s.step j).inward c).2 = g.read c.2)
    (hms : ∀ j ∈ k.earlier, ∀ m ∈ (s.step j).members.order, m.Moves g 0)
    {handler : Handler Payload Payload} {d : Call Payload → Nat}
    (hd : g.Adds (s.around handler (k :: k.later)) d) :
    g.Adds (s.invoke handler) fun c => ((s.entries handler k c).map d).sum := by
  intro c
  have hall := Adds.around hks hms hd
  rw [← Stack.around_append, ← k.all_eq] at hall
  show g.read (s.invoke handler c.1 c.2).2 = _
  rw [Stack.invoke_eq, read_stackDismiss, hall (s.inward (c.1, c.2)), read_stackInward]
  rfl

/-- What an invocation adds to a gauge that is moved by `n` on entering the step `k`: `n`
for every call that enters this step, and what the handler adds in its calls. -/
theorem read_invoke (hg : g.Still) {s : Stack} {k : StepId} {n : Nat}
    (hk : ∀ c, g.read ((s.step k).inward c).2 = g.read c.2 + n)
    (hothers : ∀ j ≠ k, ∀ c, g.read ((s.step j).inward c).2 = g.read c.2)
    {handler : Handler Payload Payload} {d : Call Payload → Nat} (hd : g.Adds handler d)
    (v : Payload) (w : World) :
    g.read (s.invoke handler v w).2 = g.read w + (n * (s.entries handler k (v, w)).length +
      ((s.calls handler (v, w)).map d).sum) := by
  have hlater := hd.around (fun j hj => hothers j (StepId.ne_of_mem_later hj))
    (fun _ _ m _ => hg.moves m)
  have hstep : g.Adds (s.around handler (k :: k.later)) fun c =>
      n + ((s.reach handler (k :: k.later) c).map d).sum :=
    (Adds.stepWrap hk (fun m _ => hg.moves m) hlater).congr fun c => by
      rw [Stack.reach, sum_flatMap]
  have hall := hstep.invoke (fun j hj => hothers j (StepId.ne_of_mem_earlier hj))
    (fun _ _ m _ => hg.moves m)
  have hcalls : ((s.calls handler (v, w)).map d).sum =
      ((s.entries handler k (v, w)).map fun c =>
        ((s.reach handler (k :: k.later) c).map d).sum).sum := by
    rw [Stack.calls, k.all_eq, Stack.reach_append, sum_flatMap, Stack.entries]
  rw [hall (v, w), hcalls, ← sum_const_add]

/-- Of all middleware of the stack, the one at the place `j` of the step `k` moves the gauge by one
whenever it is entered, and the others do not move it. -/
structure Marks (g : Gauge) (s : Stack) (k : StepId) (j : Nat) : Prop where
  lt_length : j < (s.step k).members.order.length
  moves : ∀ i l (hl : l < (s.step i).members.order.length),
    (s.step i).members.order[l].Moves g (if i = k ∧ l = j then 1 else 0)

namespace Marks

variable {s : Stack} {k : StepId} {j : Nat}

/-- Middleware of other steps do not move the gauge. -/
theorem moves_of_mem (hs : g.Marks s k j) {i : StepId} (hi : i ≠ k)
    {m : Middleware i.Input i.Output} (hm : m ∈ (s.step i).members.order) : m.Moves g 0 := by
  obtain ⟨l, hl, rfl⟩ := List.getElem_of_mem hm
  simpa [hi] using hs.moves i l hl

/-- Middleware in front do not move the gauge. -/
theorem moves_of_mem_take (hs : g.Marks s k j) {m : Middleware k.Input k.Output}
    (hm : m ∈ (s.step k).members.order.take j) : m.Moves g 0 := by
  obtain ⟨l, hl, rfl⟩ := List.getElem_of_mem hm
  rw [List.length_take] at hl
  have hne : l ≠ j := by omega
  simpa [hne] using hs.moves k l (by omega)

/-- Middleware behind do not move the gauge. -/
theorem moves_of_mem_drop (hs : g.Marks s k j) {m : Middleware k.Input k.Output}
    (hm : m ∈ (s.step k).members.order.drop (j + 1)) : m.Moves g 0 := by
  obtain ⟨l, hl, rfl⟩ := List.getElem_of_mem hm
  rw [List.length_drop] at hl
  have hne : j + 1 + l ≠ j := by omega
  simpa [hne] using hs.moves k (j + 1 + l) (by omega)

/-- The chain of the step from the marked middleware on adds one. -/
theorem adds_rest (hs : g.Marks s k j) {handler : Handler k.Input k.Output}
    (hd : g.Adds handler fun _ => 0) :
    g.Adds (within handler ((s.step k).members.order.drop j)) fun _ => 1 := by
  have hj := hs.lt_length
  have hself : (s.step k).members.order[j].Moves g 1 := by
    simpa using hs.moves k j hj
  have hback := hd.within_zero fun m hm => hs.moves_of_mem_drop hm
  rw [List.drop_eq_getElem_cons hj, within_cons]
  exact (hback.wrap hself).congr fun c => by simp

end Marks

/-- What an invocation adds to a gauge that marks a single middleware: one for every call that
enters it. -/
theorem read_invoke_visits {s : Stack} {k : StepId} {j : Nat} (hs : g.Marks s k j)
    (hsteps : ∀ i c, g.read ((s.step i).inward c).2 = g.read c.2)
    {handler : Handler Payload Payload} (hd : g.Adds handler fun _ => 0) (v : Payload) (w : World) :
    g.read (s.invoke handler v w).2 = g.read w + (s.visits handler k j (v, w)).length := by
  have hlater : g.Adds (s.around handler k.later) fun _ => 0 :=
    (hd.around (fun i _ => hsteps i)
      fun i hi m hm => hs.moves_of_mem (StepId.ne_of_mem_later hi) hm).congr fun c => by simp
  have hchain := (hs.adds_rest (hlater.outward k)).within fun m hm => hs.moves_of_mem_take hm
  rw [← within_append, List.take_append_drop] at hchain
  have hstep := Adds.step (n := 0) (hsteps k) hchain
  have hall := hstep.invoke (fun i _ => hsteps i)
    fun i hi m hm => hs.moves_of_mem (StepId.ne_of_mem_earlier hi) hm
  rw [hall (v, w), Stack.visits, List.length_flatMap]
  simp only [Nat.zero_add, List.map_const', List.sum_replicate_nat, Nat.mul_one]

/-! ## Requests that are made -/

/-- The requests made under a key. -/
def drawn (key : Nat) : Gauge where
  read w := w.drawn key
  weight _ := 0
  read_effect e w := by cases e <;> rfl
  read_offer w c := congrFun (w.drawn_offer c) key
  read_openSpan _ _ := rfl
  read_closeSpan _ _ := rfl
  read_stackFailed _ _ _ := rfl

/-- An invocation makes a request for every call that enters the serialize step. -/
theorem drawn_invoke (key : Nat) {s : Stack} {handler : Handler Payload Payload} {d : Call Payload → Nat}
    (hd : (drawn key).Adds handler d) (v : Payload) (w : World) :
    (s.invoke handler v w).2.drawn key = w.drawn key +
      ((if key = s.serialize.source.key then 1 else 0) *
        (s.entries handler .serialize (v, w)).length + ((s.calls handler (v, w)).map d).sum) := by
  refine read_invoke (fun _ => rfl) (k := .serialize) ?_ ?_ hd v w
  · intro c
    have hinward := congrFun (s.serialize.drawn_inward c) key
    rw [RequestSource.draw] at hinward
    refine hinward.trans ?_
    by_cases hkey : key = s.serialize.source.key <;> simp [hkey, drawn]
  · intro j hj c
    exact congrFun (Step.drawn_inward_of_ne hj _ c) key

/-! ## Starts of steps -/

/-- The record tells a start of the step `k`. -/
def isStart (k : StepId) : Record → Bool
  | .event (.stepStarted j _) _ => j = k
  | _ => false

/-- How often the start of the step `k` was told. -/
def starts (k : StepId) : Gauge where
  read w := w.trace.countP (isStart k)
  weight _ := 0
  read_offer w c := by rw [World.trace_offer]
  read_effect e w := by
    cases e with
    | remark r => simp [Effect.apply, World.tell, isStart]
    | _ => rfl
  read_openSpan _ _ := by simp [World.openSpan, isStart]
  read_closeSpan _ _ := by simp [World.closeSpan, isStart]
  read_stackFailed _ _ _ := by simp [World.tell, isStart]

/-- A start is told of the step that is entered. -/
theorem starts_inward (k : StepId) {j : StepId} (s : Step j) (c : Call Payload) :
    (starts k).read (s.inward c).2 = (starts k).read c.2 + if j = k then 1 else 0 := by
  have henter : (starts k).read (j.enter s.source c.1 c.2).2 = (starts k).read c.2 := by
    cases j <;> rfl
  have htell : ∀ w : World, (starts k).read (w.tell (.stepStarted j s.members.size)) =
      (starts k).read w + if j = k then 1 else 0 := by
    intro w
    by_cases hjk : j = k <;> simp [starts, World.tell, isStart, hjk]
  rw [Step.inward, htell]
  split
  · rw [(starts k).read_openSpan, henter]
  · rw [henter]

/-- An invocation tells the start of a step for every call that enters it. -/
theorem starts_invoke (k : StepId) {s : Stack} {handler : Handler Payload Payload}
    {d : Call Payload → Nat} (hd : (starts k).Adds handler d) (v : Payload) (w : World) :
    (starts k).read (s.invoke handler v w).2 = (starts k).read w +
      ((s.entries handler k (v, w)).length + ((s.calls handler (v, w)).map d).sum) := by
  have hinvoke := read_invoke (fun _ => rfl) (n := 1) (s := s) (k := k) ?_ ?_ hd v w
  · rwa [Nat.one_mul] at hinvoke
  · intro c
    rw [starts_inward, if_pos rfl]
  · intro j hj c
    rw [starts_inward, if_neg hj, Nat.add_zero]

/-! ## Notes -/

/-- How many notes in the log are under the name. -/
def noted (name : String) : Gauge where
  read w := w.journal.countP (·.author = name)
  weight
    | .note n => if n.author = name then 1 else 0
    | _ => 0
  read_effect e w := by
    cases e with
    | note n => simp [Effect.apply, List.countP_append, List.countP_singleton]
    | _ => rfl
  read_offer w c := by rw [World.journal_offer]
  read_openSpan _ _ := rfl
  read_closeSpan _ _ := rfl
  read_stackFailed _ _ _ := rfl

/-- Entering a step writes no note. -/
theorem noted_inward (name : String) {k : StepId} (s : Step k) (c : Call Payload) :
    (noted name).read (s.inward c).2 = (noted name).read c.2 :=
  congrArg (List.countP fun n : Note => n.author = name) (s.journal_inward c)

end Gauge

end OpStack
