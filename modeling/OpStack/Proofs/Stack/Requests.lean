import OpStack.Proofs.Gauge
import OpStack.Stack.Session
import OpStack.Value.Source

/-!
# OpStack.Proofs.Stack.Requests

When the source of requests is asked.  The serialize step draws a request each time it is
entered, and nothing else in a session does: the requests are numbered by the entrances.

A gauge *counts* a list of calls between two states (`Gauge.Counts`) if it rises by one
from each of them to the next and does not move otherwise.  Counted lists append, so the
statement goes through behaviours, lists of middleware, steps, stacks and sessions as it
stands, each time by the recursion that lists the calls:

* `Gauge.Numbers` — the handler is counted, whatever the state in which it is called;
* `Gauge.numbers_invoke` — an invocation, by the calls that begin the chain of a step;
* `Session.counts_run` — a run of a session, by its `Session.entrances`.
-/

namespace OpStack

section

variable {I O J α : Type}

/-- Calls in which nothing is counted make up nothing. -/
theorem flatMap_nothing (xs : List α) : (xs.flatMap fun _ => ([] : List J)) = [] :=
  List.flatMap_eq_nil_iff.mpr fun _ _ => rfl

variable [Payloads]

/-! ## Gauges that count -/

namespace Gauge

/-- From the state `w` to the state `w'` the gauge counts the calls: it stands one higher in
each of them than before it, and does not move in between. -/
structure Counts (g : Gauge) (ps : List (Call J)) (w w' : World) : Prop where
  readings : ps.map (fun p => g.read p.2) = List.range' (g.read w + 1) ps.length
  last : g.read w' = g.read w + ps.length

/-- In every call of the handler the gauge counts the calls in the list. -/
def Numbers (g : Gauge) (handler : Handler I O) (points : Call I → List (Call J)) : Prop :=
  ∀ c, g.Counts (points c) c.2 (handler c.1 c.2).2

/-- The gauge is moved by one on entering the step `k` of the stack, and not by the other
steps. -/
structure Watches (g : Gauge) (k : StepId) (s : Stack) : Prop where
  still : g.Still
  read_inward (c : Call Payload) : g.read ((s.step k).inward c).2 = g.read c.2 + 1
  read_inward_of_ne (j : StepId) (hj : j ≠ k) (c : Call Payload) :
    g.read ((s.step j).inward c).2 = g.read c.2

variable {g : Gauge} {ps qs : List (Call J)} {u u' v v' w : World}

theorem Counts.nil (h : g.read v = g.read u) : g.Counts ([] : List (Call J)) u v := ⟨rfl, h⟩

theorem Counts.singleton {p : Call J} (h : g.read p.2 = g.read u + 1) : g.Counts [p] u p.2 :=
  ⟨congrArg (fun n => [n]) h, h⟩

/-- What is counted on the way and after it is counted on the whole. -/
theorem Counts.append (hp : g.Counts ps u v) (hq : g.Counts qs v w) : g.Counts (ps ++ qs) u w where
  readings := by
    rw [List.map_append, hp.readings, hq.readings, hp.last, List.length_append,
      ← List.range'_append_1, Nat.add_right_comm]
  last := by rw [hq.last, hp.last, List.length_append, Nat.add_assoc]

/-- Only what the gauge tells of the two states matters. -/
theorem Counts.congr (h : g.Counts ps u v) (hu : g.read u' = g.read u)
    (hv : g.read v' = g.read v) : g.Counts ps u' v' where
  readings := by rw [hu, h.readings]
  last := by rw [hu, hv, h.last]

/-- The calls that are counted come in the order of their numbers. -/
theorem Counts.read_getElem (h : g.Counts ps u v) (i : Nat) (hi : i < ps.length) :
    g.read ps[i].2 = g.read u + 1 + i := by
  have hreading : (ps.map fun p => g.read p.2)[i]? = some (g.read u + 1 + i) := by
    rw [h.readings, List.getElem?_range' hi, Nat.one_mul]
  rw [List.getElem?_map, List.getElem?_eq_getElem hi] at hreading
  exact Option.some.inj hreading

theorem Numbers.congr {handler : Handler I O} {points points' : Call I → List (Call J)}
    (h : g.Numbers handler points) (hpoints : ∀ c, points c = points' c) :
    g.Numbers handler points' :=
  fun c => hpoints c ▸ h c

/-! ### Behaviours and lists of middleware -/

/-- A behaviour is counted where its calls are. -/
theorem counts_run (hg : g.Still) {next : Handler I O} {points : Call I → List (Call J)}
    (hnext : g.Numbers next points) (b : Behaviour I O α) (w : World) :
    g.Counts ((b.calls next w).flatMap points) w (b.run next w).2 := by
  induction b generalizing w with
  | finish result => exact .nil rfl
  | callOn c input resume ih =>
      rw [Behaviour.calls, Behaviour.run, List.flatMap_cons]
      have hcall := (hnext (input, w.offer c)).congr (g.read_offer w c).symm
        (g.read_lend w c (next input))
      exact hcall.append (ih _ _)
  | actOn c e resume ih =>
      rw [Behaviour.calls, Behaviour.run]
      refine (ih _ _).congr ?_ rfl
      rw [g.read_lend, g.read_effect, hg e, g.read_offer, Nat.add_zero]

/-- A list of middleware is counted where the calls arrive. -/
theorem numbers_within (hg : g.Still) {handler : Handler I O} {points : Call I → List (Call J)}
    (hhandler : g.Numbers handler points) (ms : List (Middleware I O)) :
    g.Numbers (within handler ms) fun c => (arrivals handler ms c).flatMap points := by
  induction ms with
  | nil =>
      intro c
      show g.Counts ((arrivals handler [] c).flatMap points) _ _
      rw [arrivals, List.flatMap_singleton]
      exact hhandler c
  | cons m ms ih =>
      intro c
      show g.Counts ((arrivals handler (m :: ms) c).flatMap points) _ _
      rw [arrivals, List.flatMap_assoc]
      exact counts_run hg ih (m.body c.1) c.2

/-- A terminal is out of reach of every gauge. -/
theorem numbers_terminal (hg : g.Still) (t : Terminal) :
    g.Numbers t.handler fun _ => ([] : List (Call J)) := by
  intro c
  have hnone : ∀ next : Handler Empty Empty, g.Numbers next fun _ => ([] : List (Call J)) :=
    fun _ c => c.1.elim
  have hrun : ∀ next, g.Counts ([] : List (Call J)) c.2 ((t c.1).run next c.2).2 := by
    intro next
    have hrun := counts_run hg (hnone next) (t c.1) c.2
    rwa [flatMap_nothing] at hrun
  exact hrun _

/-! ### Steps and stacks -/

/-- A step counts what is counted on entering it, then what is counted in the calls that
leave it. -/
theorem numbers_wrap (hg : g.Still) {k : StepId} {s : Step k} {first : Call Payload → List (Call J)}
    (hfirst : ∀ c, g.Counts (first c) c.2 (s.inward c).2) {next : Handler Payload Payload}
    {points : Call Payload → List (Call J)} (hnext : g.Numbers next points) :
    g.Numbers (s.wrap next) fun c => first c ++ (s.arrivals next c).flatMap points := by
  intro c
  have hout : g.Numbers (k.outward next) fun c => points (k.forward c.1, c.2) :=
    fun c => hnext (k.forward c.1, c.2)
  have hchain := numbers_within hg hout s.members.order (s.inward c)
  show g.Counts (first c ++ (s.arrivals next c).flatMap points) _ _
  rw [Step.wrap_eq, Step.arrivals, List.flatMap_map]
  exact ((hfirst c).append hchain).congr rfl (g.read_stepDismiss s _)

/-- Steps that leave the gauge alone count what the handler inside counts. -/
theorem numbers_around (hg : g.Still) {s : Stack} {ks : List StepId}
    (hks : ∀ k ∈ ks, ∀ c, g.read ((s.step k).inward c).2 = g.read c.2)
    {handler : Handler Payload Payload} {points : Call Payload → List (Call J)}
    (hhandler : g.Numbers handler points) :
    g.Numbers (s.around handler ks) fun c => (s.reach handler ks c).flatMap points := by
  induction ks with
  | nil =>
      intro c
      show g.Counts ((s.reach handler [] c).flatMap points) _ _
      rw [Stack.reach, List.flatMap_singleton]
      exact hhandler c
  | cons k ks ih =>
      intro c
      have hfirst : ∀ c, g.Counts ([] : List (Call J)) c.2 ((s.step k).inward c).2 :=
        fun c => .nil (hks k List.mem_cons_self c)
      have hrest := ih fun j hj => hks j (List.mem_cons_of_mem k hj)
      show g.Counts ((s.reach handler (k :: ks) c).flatMap points) _ _
      rw [Stack.reach, List.flatMap_assoc]
      exact numbers_wrap hg hfirst hrest c

/-- A gauge that watches the step `k` counts the calls that begin the chain of this step. -/
theorem numbers_invoke {s : Stack} {k : StepId} (hs : g.Watches k s)
    {handler : Handler Payload Payload}
    (hhandler : g.Numbers handler fun _ => ([] : List (Call k.Input))) :
    g.Numbers (s.invoke handler) fun c => s.visits handler k 0 c := by
  -- from the inside out: behind the step nothing is counted, on entering it one call, and
  -- the steps before it hand on what is counted inside
  have hlater : g.Numbers (s.around handler k.later) fun _ => ([] : List (Call k.Input)) :=
    (numbers_around hs.still (fun j hj => hs.read_inward_of_ne j (StepId.ne_of_mem_later hj))
      hhandler).congr fun _ => flatMap_nothing _
  have hstep : g.Numbers (s.around handler (k :: k.later)) fun c => [(s.step k).inward c] :=
    (numbers_wrap hs.still (fun c => .singleton (hs.read_inward c)) hlater).congr fun _ => by
      rw [flatMap_nothing, List.append_nil]
  intro c
  have hall := numbers_around hs.still
    (fun j hj => hs.read_inward_of_ne j (StepId.ne_of_mem_earlier hj)) hstep (s.inward c)
  rw [← Stack.around_append, ← k.all_eq] at hall
  rw [Stack.invoke_eq]
  exact hall.congr (g.read_stackInward s c).symm (g.read_stackDismiss s _)

/-- The requests of the source that the stack has are a gauge of the serialize step. -/
theorem watches_drawn (s : Stack) : (drawn s.serialize.source.key).Watches .serialize s where
  still _ := rfl
  read_inward c :=
    (congrFun (s.serialize.drawn_inward c) s.serialize.source.key).trans (if_pos rfl)
  read_inward_of_ne _ hj c := congrFun (Step.drawn_inward_of_ne hj _ c) s.serialize.source.key

/-- The starts that are told of a step are a gauge of it. -/
theorem watches_starts (k : StepId) (s : Stack) : (starts k).Watches k s where
  still _ := rfl
  read_inward c := by rw [starts_inward, if_pos rfl]
  read_inward_of_ne j hj c := by rw [starts_inward, if_neg hj, Nat.add_zero]

/-! ### Between invocations -/

/-- Neither setting up a step nor a new start moves the gauge. -/
structure Steady (g : Gauge) : Prop where
  read_begin (w : World) (start : Start) : g.read (w.begin start) = g.read w
  read_registry (w : World) (e : Registry.Event) : g.read (w.tell (.registry e)) = g.read w

theorem steady_drawn (key : Nat) : (drawn key).Steady := ⟨fun _ _ => rfl, fun _ _ => rfl⟩

theorem steady_starts (k : StepId) : (starts k).Steady where
  read_begin _ _ := rfl
  read_registry w e := by simp [starts, World.tell, isStart]

/-- What is told of a registry is no start of a step. -/
theorem Steady.read_events (hg : g.Steady) (es : List Registry.Event) (w : World) :
    g.read (es.foldl (fun w e => w.tell (.registry e)) w) = g.read w := by
  induction es generalizing w with
  | nil => rfl
  | cons e es ih => rw [List.foldl_cons, ih, hg.read_registry]

end Gauge

/-! ## Sources that stay -/

/-- No change of its middleware changes the source of a step. -/
theorem Step.Performed.source_ofMembers {k : StepId} (s : Step k)
    (p : Registry.Performed (Middleware k.Input k.Output)) :
    (ofMembers s p).step.source = s.source := by
  rw [ofMembers]
  cases p.reply <;> rfl

/-- No operation on a step changes what the step is made from. -/
theorem Step.Op.source_perform {k : StepId} (op : Step.Op k) (s : Step k) :
    (op.perform s).step.source = s.source := by
  cases op with
  | setInstrument wanted => rfl
  | info => rfl
  | _ => exact Performed.source_ofMembers s _

/-- Another step in the stack leaves the source of its requests. -/
theorem Stack.source_withStep (s : Stack) {k : StepId} {t : Step k}
    (ht : t.source = (s.step k).source) :
    (s.withStep k t).serialize.source = s.serialize.source := by
  cases k with
  | serialize => exact ht
  | init | build | finalize | deserialize => rfl

/-! ## Visits -/

namespace Stack

/-- The chain of a step begins with the calls that enter the step. -/
theorem visits_zero (s : Stack) (handler : Handler Payload Payload) (k : StepId) (c : Call Payload) :
    s.visits handler k 0 c = (s.entries handler k c).map (s.step k).inward :=
  List.map_eq_flatMap.symm

/-- The chain of the serialize step begins with the request that the source made last. -/
theorem request_of_mem_visits {s : Stack} {handler : Handler Payload Payload} {c : Call Payload}
    {e : Call Serialization} (he : e ∈ s.visits handler .serialize 0 c) :
    e.1.request = s.serialize.source.make (e.2.drawn s.serialize.source.key - 1) := by
  rw [visits_zero] at he
  obtain ⟨c, -, rfl⟩ := List.mem_map.mp he
  have hdrawn := (Gauge.watches_drawn s).read_inward c
  show s.serialize.source.make (c.2.drawn s.serialize.source.key) = _
  exact congrArg s.serialize.source.make (Nat.sub_eq_of_eq_add hdrawn).symm

/-- The serialize step is entered by the calls that come through the chain of the
initialize step. -/
theorem length_visits_serialize (s : Stack) (handler : Handler Payload Payload) (c : Call Payload) :
    (s.visits handler .serialize 0 c).length =
      (s.visits handler .init s.init.members.order.length c).length := by
  have hall : s.visits handler .init s.init.members.order.length c =
      OpStack.arrivals (StepId.outward .init (s.around handler StepId.init.later))
        s.init.members.order (s.init.inward (s.inward c)) := by
    simp [visits, entries, StepId.earlier, reach, step]
  rw [visits_zero, List.length_map, hall]
  simp [entries, StepId.earlier, reach, step, Step.arrivals, StepId.later]

/-- An invocation makes a request for each call that comes to the end of the initialize chain. -/
theorem drawn_invoke_ends (s : Stack) (terminal : Terminal) (v : Payload) (w : World) :
    (s.invoke terminal.handler v w).2.drawn s.serialize.source.key =
      w.drawn s.serialize.source.key +
        (s.visits terminal.handler .init s.init.members.order.length (v, w)).length := by
  rw [← length_visits_serialize]
  exact (Gauge.numbers_invoke (Gauge.watches_drawn s) (Gauge.numbers_terminal (fun _ => rfl) terminal)
    (v, w)).last

/-- The calls that begin the chain of the step `k` while the handler inside the stack is
called for one payload after the other. -/
def visitsAfresh (s : Stack) (handler : Handler Payload Payload) (k : StepId) (start : Start) :
    List Payload → World → List (Call k.Input)
  | [], _ => []
  | v :: vs, w =>
    s.visits handler k 0 (v, w.begin start) ++
      s.visitsAfresh handler k start vs (invocation (s.decorateHandler handler) start v w).2

/-- In several calls each entry of the serialize step has the request that was drawn for it. -/
theorem request_of_mem_visitsAfresh {s : Stack} {handler : Handler Payload Payload} {start : Start}
    {vs : List Payload} {w : World} {e : Call Serialization}
    (he : e ∈ s.visitsAfresh handler .serialize start vs w) :
    e.1.request = s.serialize.source.make (e.2.drawn s.serialize.source.key - 1) := by
  induction vs generalizing w with
  | nil => exact absurd he List.not_mem_nil
  | cons v vs ih =>
      obtain he | he := List.mem_append.mp he
      · exact request_of_mem_visits he
      · exact ih he

/-! ## Sessions -/

namespace Session

def Op.invokes : Op → Bool
  | invoke .. | decorate .. => true
  | _ => false

/-- The calls that begin the chain of the step `k` during an operation. -/
def entrances (s : Session) (k : StepId) : Op → List (Call k.Input)
  | .invoke v terminal start =>
    s.stack.visits terminal.handler k 0 (v, s.world.begin (start.getD s.shared))
  | .decorate vs terminal => s.stack.visitsAfresh terminal.handler k {} vs s.world
  | _ => []

/-- The calls that begin the chain of the step `k` during a run. -/
def allEntrances (s : Session) (k : StepId) : List Op → List (Call k.Input)
  | [] => []
  | op :: ops => s.entrances k op ++ (s.perform op).2.allEntrances k ops

/-- No operation changes the source of a stack. -/
theorem source_perform (s : Session) (op : Op) :
    (s.perform op).2.stack.serialize.source = s.stack.serialize.source := by
  have hon : ∀ k (op : Step.Op k),
      (s.performOn k op).2.stack.serialize.source = s.stack.serialize.source :=
    fun k op => s.stack.source_withStep (op.source_perform _)
  cases op with
  | on k op => exact hon k op
  | readd k position =>
      rw [perform]
      split
      · exact hon k _
      · rfl
  | invoke v terminal start => cases start <;> rfl
  | _ => rfl

/-- Neither does a run. -/
theorem source_run (s : Session) (ops : List Op) :
    (s.run ops).2.stack.serialize.source = s.stack.serialize.source := by
  induction ops generalizing s with
  | nil => rfl
  | cons op ops ih => exact (ih _).trans (s.source_perform op)

/-- Setting up and reading do to the state what telling of the registries does. -/
theorem world_perform (s : Session) {op : Op} (hop : op.invokes = false) :
    ∃ es : List Registry.Event,
      (s.perform op).2.world = es.foldl (fun w e => w.tell (.registry e)) s.world := by
  cases op with
  | on k op => exact ⟨_, rfl⟩
  | readd k position =>
      rw [perform]
      split
      · exact ⟨_, rfl⟩
      · exact ⟨[], rfl⟩
  | invoke | decorate => contradiction
  | _ => exact ⟨[], rfl⟩

/-- Only invocations enter steps. -/
theorem entrances_of_not_invokes (s : Session) (k : StepId) {op : Op}
    (hop : op.invokes = false) : s.entrances k op = [] := by
  cases op with
  | invoke | decorate => contradiction
  | _ => rfl

section Counts

variable {g : Gauge} {k : StepId}

/-- Several calls are counted one after the other. -/
theorem counts_eachAfresh {s : Stack} (hs : g.Watches k s) (hg : g.Steady) (terminal : Terminal)
    (start : Start) (vs : List Payload) (w : World) :
    g.Counts (s.visitsAfresh terminal.handler k start vs w) w
      (eachAfresh (s.decorateHandler terminal.handler) start vs w).2 := by
  induction vs generalizing w with
  | nil => exact .nil rfl
  | cons v vs ih =>
      have hone := Gauge.numbers_invoke hs (Gauge.numbers_terminal hs.still terminal) (v, w.begin start)
      exact (hone.congr (hg.read_begin w start).symm rfl).append (ih _)

/-- An operation counts its entrances. -/
theorem counts_perform {s : Session} (hs : g.Watches k s.stack) (hg : g.Steady) (op : Op) :
    g.Counts (s.entrances k op) s.world (s.perform op).2.world := by
  cases hop : op.invokes with
  | false =>
      obtain ⟨es, hworld⟩ := s.world_perform hop
      rw [s.entrances_of_not_invokes k hop, hworld]
      exact .nil (hg.read_events es s.world)
  | true =>
      cases op with
      | invoke v terminal start =>
          have hone := Gauge.numbers_invoke hs (Gauge.numbers_terminal hs.still terminal)
            (v, s.world.begin (start.getD s.shared))
          have hworld : (s.perform (.invoke v terminal start)).2.world =
              (s.stack.invoke terminal.handler v (s.world.begin (start.getD s.shared))).2 := by
            cases start <;> rfl
          rw [hworld]
          exact hone.congr (hg.read_begin s.world _).symm rfl
      | decorate vs terminal => exact counts_eachAfresh hs hg terminal {} vs s.world
      | _ => contradiction

/-- A run counts its entrances, if the gauge watches the step in every stack that draws from
the source of this one. -/
theorem counts_run {s : Session}
    (hs : ∀ t : Stack, t.serialize.source = s.stack.serialize.source → g.Watches k t)
    (hg : g.Steady) (ops : List Op) :
    g.Counts (s.allEntrances k ops) s.world (s.run ops).2.world := by
  induction ops generalizing s with
  | nil => exact .nil rfl
  | cons op ops ih =>
      have hone := counts_perform (hs s.stack rfl) hg op
      refine hone.append (ih fun t ht => hs t ?_)
      rw [ht, source_perform]

end Counts

/-- The envelope that the chain of the serialize step begins with holds the request that the
source made last. -/
theorem request_of_mem_allEntrances {s : Session} {ops : List Op} {e : Call Serialization}
    (he : e ∈ s.allEntrances .serialize ops) :
    e.1.request = s.stack.serialize.source.make (e.2.drawn s.stack.serialize.source.key - 1) := by
  induction ops generalizing s with
  | nil => exact absurd he List.not_mem_nil
  | cons op ops ih =>
      obtain he | he := List.mem_append.mp he
      · cases op with
        | invoke v terminal start => exact Stack.request_of_mem_visits he
        | decorate vs terminal => exact Stack.request_of_mem_visitsAfresh he
        | _ => exact absurd he List.not_mem_nil
      · rw [← source_perform s op]
        exact ih he

/-! ## Whole runs -/

/-- A run makes a request for each entrance of the serialize step. -/
theorem counts_drawn (s : Session) (ops : List Op) :
    (Gauge.drawn s.stack.serialize.source.key).Counts (s.allEntrances .serialize ops) s.world
      (s.run ops).2.world :=
  counts_run (fun t ht => ht ▸ Gauge.watches_drawn t) (Gauge.steady_drawn _) ops

/-- A run tells a start for each entrance of the step. -/
theorem counts_starts (s : Session) (k : StepId) (ops : List Op) :
    (Gauge.starts k).Counts (s.allEntrances k ops) s.world (s.run ops).2.world :=
  counts_run (fun t _ => Gauge.watches_starts k t) (Gauge.steady_starts k) ops

/-- The entrances get the requests of the source in order, from the next one on. -/
theorem request_getElem (s : Session) (ops : List Op) (i : Nat)
    (hi : i < (s.allEntrances .serialize ops).length) :
    (s.allEntrances .serialize ops)[i].1.request =
      s.stack.serialize.source.make (s.world.drawn s.stack.serialize.source.key + i) := by
  have hdrawn := (s.counts_drawn ops).read_getElem i hi
  rw [Nat.add_right_comm] at hdrawn
  rw [request_of_mem_allEntrances (List.getElem_mem hi)]
  exact congrArg s.stack.serialize.source.make (Nat.sub_eq_of_eq_add hdrawn)

/-- **Requests are numbered by the entrances of the serialize step.**  Whatever is done with a
new stack, in any order and with any middleware,

1. the chain of the serialize step begins for the `i`-th time, counted from zero, with the
   request `i` of the source; it has made `i + 1` requests then, and `i + 1` starts of the
   step are told, so there is no gap and no repeat, and nothing in between asks the source;
2. at the end the source has made as many requests as the chain has begun;
3. an operation that does not call the stack makes no requests;
4. one call of the stack, direct or through a handler inside it, makes a request for each
   call that comes to the end of the initialize chain: at most one if at most one comes
   there, and none if none does, whatever the later steps do. -/
theorem requests_numbered (options : StackOptions) (source : RequestSource) (ops : List Op) :
    let fresh : Session := { stack := .new options source }
    let es := fresh.allEntrances .serialize ops
    let s := (fresh.run ops).2
    (∀ i (hi : i < es.length),
      es[i].1.request = source.make i ∧
      es[i].2.drawn source.key = i + 1 ∧
      (Gauge.starts .serialize).read es[i].2 = i + 1) ∧
    (s.world.drawn source.key = es.length ∧
      (Gauge.starts .serialize).read s.world = es.length) ∧
    (∀ op : Op, op.invokes = false → (s.perform op).2.world.drawn = s.world.drawn) ∧
    ∀ (terminal : Terminal) (v : Payload) (w : World),
      let ends := s.stack.visits terminal.handler .init s.stack.init.members.order.length (v, w)
      ∀ handler ∈ [s.stack.invoke terminal.handler, s.stack.decorateHandler terminal.handler],
        let after := (handler v w).2
        after.drawn source.key = w.drawn source.key + ends.length ∧
        (ends.length ≤ 1 → after.drawn source.key ≤ w.drawn source.key + 1) ∧
        (ends = [] → after.drawn source.key = w.drawn source.key) := by
  intro fresh es s
  have hdrawn : (Gauge.drawn source.key).Counts es fresh.world s.world := fresh.counts_drawn ops
  have hstarts := fresh.counts_starts .serialize ops
  -- nothing is drawn and nothing is told before the run
  have hfirst : ∀ i, 0 + 1 + i = i + 1 := fun i => by omega
  refine ⟨fun i hi => ⟨?_, ?_, ?_⟩, ⟨?_, ?_⟩, fun op hop => ?_, ?_⟩
  · have hrequest : es[i].1.request = source.make (0 + i) := fresh.request_getElem ops i hi
    rwa [Nat.zero_add] at hrequest
  · exact (hdrawn.read_getElem i hi).trans (hfirst i)
  · exact (hstarts.read_getElem i hi).trans (hfirst i)
  · exact hdrawn.last.trans (Nat.zero_add _)
  · exact hstarts.last.trans (Nat.zero_add _)
  · obtain ⟨es, hworld⟩ := s.world_perform hop
    funext key
    rw [hworld]
    exact (Gauge.steady_drawn key).read_events es s.world
  · intro terminal v w ends handler hhandler after
    have heq : handler = s.stack.invoke terminal.handler := by
      obtain rfl | hmem := List.mem_cons.mp hhandler
      · rfl
      · exact List.mem_singleton.mp hmem
    have hsource : s.stack.serialize.source = source := fresh.source_run ops
    have hall : after.drawn source.key = w.drawn source.key + ends.length := by
      have hone := s.stack.drawn_invoke_ends terminal v w
      rwa [hsource, ← heq] at hone
    refine ⟨hall, fun hends => ?_, fun hends => ?_⟩
    · rw [hall]
      exact Nat.add_le_add_left hends _
    · rw [hall, hends, List.length_nil, Nat.add_zero]

end Session

end Stack

end

namespace Stack.Session

/-- A middleware of the initialize step that calls twice makes two requests of every
invocation, here with calls that fail. -/
example :
    let twice : Middleware Parameters Response :=
      { id := "twice", body := fun i => .call i fun _ => .call i .finish }
    let offline : Terminal := fun _ => .finish (.error (.raised "Offline" "no answer"))
    let fresh : Session := { stack := .new { id := "stack" } (.counting 0) }
    let ops := [Op.invoke .unit offline none, .on .init (.add twice .after), .list,
      .decorate [Value.unit] offline, .invoke .unit offline none]
    (fresh.allEntrances .serialize ops).map (fun e => e.1.request) =
      [.usize 0, .usize 1, .usize 2, .usize 3, .usize 4] := by
  rfl

end Stack.Session

end OpStack
