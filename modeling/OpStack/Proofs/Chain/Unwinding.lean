import OpStack.Proofs.Chain.Bracketing
import OpStack.Proofs.Relay
import OpStack.Value.Source

/-!
# OpStack.Proofs.Chain.Unwinding

How a failure leaves a chain whose middleware catch no failure of the next handler.

1. It is raised once, by a middleware or by the terminal, and until then nothing fails.
2. From then on it is handed outward: behaviours forward it, frames are left with it, and
   nothing else happens (`Deed.Unwinds`).  Context, log and request counts stay as they
   were (`Follows.rests`).
3. The frames that are left are those it was raised in, innermost first, so the stacks
   among them tell of it in this order.

`Fares` says the first and the third for the moments of a single call; `failure_unwinds`
says all of it for an invocation.
-/

namespace OpStack

section

variable [Payloads] {I O α : Type}

/-! ## Middleware that catch nothing -/

/-- A failure of a call ends the behaviour, which fails in the same way. -/
def Behaviour.Forwards : Behaviour I O α → Prop
  | finish _ => True
  | callOn _ _ resume =>
    (∀ e, resume (.error e) = finish (.error e)) ∧ ∀ o, (resume (.ok o)).Forwards
  | actOn _ _ resume => ∀ a, (resume a).Forwards

def Middleware.Forwards (m : Middleware I O) : Prop := ∀ input, (m.body input).Forwards

theorem Behaviour.forwards_finish (result : Except Fault α) :
    (finish result : Behaviour I O α).Forwards := trivial

/-- Notes do not catch anything. -/
theorem Behaviour.forwards_noting {b : Behaviour I O α} (hb : b.Forwards) (ns : List Note) :
    (b.noting ns).Forwards := by
  induction ns with
  | nil => exact hb
  | cons n ns ih => exact fun _ => ih

/-- Relays catch nothing. -/
theorem Relay.forwards (r : Relay I O) : r.toMiddleware.Forwards := by
  intro input
  refine Behaviour.forwards_noting ?_ r.before
  exact ⟨fun _ => rfl, fun _ => Behaviour.forwards_noting (Behaviour.forwards_finish _) r.after⟩

/-! ## The way of a failure -/

/-- Contexts, flags, log and request counts are the same in both states. -/
structure World.Rests (w w' : World) : Prop where
  memory : w'.toMemory = w.toMemory
  journal : w'.journal = w.journal
  drawn : w'.drawn = w.drawn

/-- The second state differs from the first at most in trace and active spans. -/
structure World.Quiet (w w' : World) : Prop extends w.Rests w' where
  hand : w'.hand = w.hand

theorem World.Rests.refl (w : World) : w.Rests w := ⟨rfl, rfl, rfl⟩

theorem World.Rests.trans {w u w' : World} (h : w.Rests u) (h' : u.Rests w') : w.Rests w' :=
  ⟨h'.memory.trans h.memory, h'.journal.trans h.journal, h'.drawn.trans h.drawn⟩

theorem World.Quiet.refl (w : World) : w.Quiet w := ⟨.refl w, rfl⟩

theorem World.Quiet.symm {w w' : World} (h : w.Quiet w') : w'.Quiet w :=
  ⟨⟨h.memory.symm, h.journal.symm, h.drawn.symm⟩, h.hand.symm⟩

theorem World.Quiet.trans {w u w' : World} (h : w.Quiet u) (h' : u.Quiet w') : w.Quiet w' :=
  ⟨h.toRests.trans h'.toRests, h'.hand.trans h.hand⟩

/-- Leaving a frame tells the observer, and nobody else. -/
theorem Frame.quiet_leave (f : Frame) (fault : Option Fault) (w : World) :
    w.Quiet (f.leave fault w) := by
  have hclose : ∀ u : World, w.Quiet u → w.Quiet (f.closeSpan u) := by
    intro u hu
    rw [closeSpan]
    cases f.span? with
    | none => exact hu
    | some s => exact ⟨⟨hu.memory, hu.journal, hu.drawn⟩, hu.hand⟩
  cases f with
  | stack id instrument =>
      cases fault with
      | none => exact hclose w (.refl w)
      | some e => exact hclose _ ⟨⟨rfl, rfl, rfl⟩, rfl⟩
  | step id instrument members key => exact hclose w (.refl w)

/-- Handing a failure outward leaves contexts, log and counts alone. -/
theorem Deed.rests_apply {e : Fault} {d : Deed} (hd : d.Unwinds e) (w : World) :
    w.Rests (d.apply w) := by
  cases d with
  | entered f | did i e | called i | raised e => exact hd.elim
  | left f fault => exact (f.quiet_leave fault w).toRests
  | resumed i fault => exact ⟨rfl, rfl, rfl⟩
  | forwarded e => exact .refl w

/-- On its way outward a failure changes nothing but trace and active spans, and which context is
at hand. -/
theorem Follows.rests {e : Fault} {w w' : World} {ms : List Moment} (h : Follows w ms w')
    (hms : ∀ m ∈ ms, m.deed.Unwinds e) : w.Rests w' := by
  induction ms generalizing w with
  | nil =>
      obtain rfl : w' = w := h
      exact .refl _
  | cons m ms ih =>
      obtain ⟨hm, hrest⟩ := h
      have hfirst := Deed.rests_apply (hms m List.mem_cons_self) w
      rw [← hm] at hfirst
      exact hfirst.trans (ih hrest fun n hn => hms n (List.mem_cons_of_mem m hn))

def Deed.left? : Deed → Option Frame
  | left f _ => some f
  | _ => none

/-- The moments of a call at the place, by the failure that the call ends with: without one
nothing fails on the way; otherwise it is raised once, somewhere inside, and then goes
outward through the frames around it. -/
inductive Fares (place : List Frame) : Option Fault → List Moment → Prop where
  | smoothly {ms : List Moment} (h : ∀ m ∈ ms, m.deed.fault? = none) : Fares place none ms
  | failing {e : Fault} {before after : List Moment} {frames : List Frame} {u : World}
      (hbefore : ∀ m ∈ before, m.deed.fault? = none) (hafter : ∀ m ∈ after, m.deed.Unwinds e)
      (hleft : after.filterMap (·.deed.left?) = frames.reverse) :
      Fares place (some e) (before ++ ⟨place ++ frames, .raised e, u⟩ :: after)

namespace Fares

variable {place : List Frame} {r : Option Fault} {e : Fault} {m : Moment}
  {ms front back : List Moment}

/-- A call that ends well had no failure on the way. -/
theorem smooth (h : Fares place none ms) : ∀ m ∈ ms, m.deed.fault? = none := by
  cases h with
  | smoothly h => exact h

/-- What goes smoothly before a call does not change how it fares. -/
theorem prepend (hfront : ∀ m ∈ front, m.deed.fault? = none) (h : Fares place r ms) :
    Fares place r (front ++ ms) := by
  cases h with
  | smoothly h => exact .smoothly (List.forall_mem_append.mpr ⟨hfront, h⟩)
  | failing hbefore hafter hleft =>
      rw [← List.append_assoc]
      exact .failing (List.forall_mem_append.mpr ⟨hfront, hbefore⟩) hafter hleft

theorem cons (hm : m.deed.fault? = none) (h : Fares place r ms) : Fares place r (m :: ms) :=
  show Fares place r ([m] ++ ms) from
    prepend (List.forall_mem_singleton.mpr hm) h

/-- The failure of a call inside the frames `fs` goes outward through them. -/
theorem append (fs : List Frame) (h : Fares (place ++ fs) (some e) ms)
    (hback : ∀ m ∈ back, m.deed.Unwinds e)
    (hleft : back.filterMap (·.deed.left?) = fs.reverse) : Fares place (some e) (ms ++ back) := by
  cases h with
  | @failing _ before after frames u hbefore hafter hleft' =>
      rw [List.append_assoc, List.cons_append, List.append_assoc]
      refine .failing hbefore (List.forall_mem_append.mpr ⟨hafter, hback⟩) ?_
      rw [List.filterMap_append, hleft, hleft', List.reverse_append]

/-- No other failure is raised. -/
theorem eq_of_raised (h : Fares place r ms) (hm : m ∈ ms) (hraised : m.deed = .raised e) :
    r = some e := by
  have hfault : m.deed.fault? ≠ none := by
    rw [hraised]
    exact Option.some_ne_none e
  cases h with
  | smoothly h => exact absurd (h m hm) hfault
  | failing hbefore hafter _ =>
      rcases List.mem_append.mp hm with hm | hm
      · exact absurd (hbefore m hm) hfault
      · rcases List.mem_cons.mp hm with rfl | hm
        · exact congrArg some (Deed.raised.inj hraised)
        · have hunwinds := hafter m hm
          rw [hraised] at hunwinds
          exact hunwinds.elim

end Fares

/-- A behaviour that forwards fares like the first of its calls that fails. -/
theorem Behaviour.fares_story (next : Narrated I O)
    (hnext : ∀ place c, Fares place (fault? (next.handler c.1 c.2).1) (next.story place c))
    (place : List Frame) {b : Behaviour I O α} (hb : b.Forwards) (w : World) :
    Fares place (fault? (b.run next.handler w).1) (b.story next place none w) := by
  induction b generalizing w with
  | finish result =>
      cases result with
      | ok a => exact .smoothly (List.forall_mem_nil _)
      | error e =>
          have hraised : Fares place (some e) ([] ++ [⟨place ++ [], .raised e, w⟩]) :=
            .failing (List.forall_mem_nil _) (List.forall_mem_nil _) rfl
          rwa [List.append_nil] at hraised
  | callOn c input resume ih =>
      obtain ⟨hforward, hresume⟩ := hb
      have hinner := hnext place (input, w.offer c)
      rw [story, run]
      refine .cons rfl ?_
      cases hn : next.handler input (w.offer c) with
      | mk answer u =>
          simp only [World.lend, hn] at hinner ⊢
          cases answer with
          | ok o => exact .prepend hinner.smooth (.cons rfl (ih (.ok o) (hresume o) _))
          | error e =>
              -- the failure comes back, and the behaviour ends with it
              rw [hforward, story, ending, if_pos (by rfl)]
              refine .append [] (by rwa [List.append_nil]) ?_ rfl
              exact List.forall_mem_cons.mpr ⟨rfl, List.forall_mem_singleton.mpr rfl⟩
  | actOn c e resume ih => exact .cons rfl (ih _ (hb _) _)

/-- Every layer of such middleware keeps how a call fares. -/
theorem kept_fares : Kept Middleware.Forwards fun _ t =>
    ∀ place c, Fares place (fault? (t.handler c.1 c.2).1) (t.story place c) where
  terminal t place c := by
    have hforwards : ∀ b : Behaviour Empty Empty Payload, b.Forwards := by
      intro b
      induction b with
      | finish result => exact Behaviour.forwards_finish result
      | callOn c input resume ih => exact input.elim
      | actOn c e resume ih => exact ih
    exact Behaviour.fares_story .nowhere (fun _ c => c.1.elim) place (hforwards (t c.1)) c.2
  around m hm hnext place c := Behaviour.fares_story _ hnext place (hm c.1) c.2
  carried forward complete hnext place c := by
    have hinner := hnext place (forward c.1, c.2)
    rwa [← fault?_map complete] at hinner
  framed f into exit hinner place c := by
    have hinside := hinner (place ++ [f]) (into c, f.enter c.2)
    refine .cons rfl ?_
    rw [Narrated.framed, fault?_map]
    dsimp only at hinside ⊢
    generalize fault? _ = r at hinside ⊢
    cases r with
    | none => exact .prepend hinside.smooth (.cons rfl (.smoothly (List.forall_mem_nil _)))
    | some e => exact .append [f] hinside (List.forall_mem_singleton.mpr rfl) rfl

/-! ## What the stacks tell -/

/-- The stack and the text, if the record tells of a failed invocation. -/
def Record.failure? : Record → Option (String × String)
  | event (.stackFailed id text) _ => some (id, text)
  | _ => none

/-- The failed invocations that the trace tells of: stack and text, in order. -/
def World.failures (w : World) : List (String × String) := w.trace.filterMap Record.failure?

/-- The stack and the text that the deed tells, if it leaves a stack with a failure. -/
def Deed.failure? : Deed → Option (String × String)
  | left f (some e) => f.stack?.map (·, e.message)
  | _ => none

/-- Where nothing fails, no stack tells of a failure. -/
theorem Deed.failure?_of_smooth {d : Deed} (hd : d.fault? = none) : d.failure? = none := by
  cases d with
  | left f fault =>
      obtain rfl : fault = none := hd
      rfl
  | entered f | did i e | called i | resumed i fault | raised e | forwarded e => rfl

/-- A failure on its way outward is told by the stacks that are left. -/
theorem Deed.failure?_of_unwinds {e : Fault} {d : Deed} (hd : d.Unwinds e) :
    d.failure? = (d.left?.bind Frame.stack?).map (·, e.message) := by
  cases d with
  | left f fault =>
      obtain rfl : fault = some e := hd
      rfl
  | entered f | did i e | called i | raised e => exact hd.elim
  | resumed i fault | forwarded e => rfl

/-- A moment has the failure of its deed in the trace. -/
theorem Moment.filterMap_records (base : List Span) (m : Moment) :
    (m.records base).filterMap Record.failure? = m.deed.failure?.toList := by
  have hspan : ∀ (f : Frame) (r : Span → Record), (∀ s, (r s).failure? = none) →
      (f.span?.toList.map r).filterMap Record.failure? = [] := by
    intro f r hr
    rw [List.filterMap_eq_nil_iff]
    intro x hx
    obtain ⟨s, _, rfl⟩ := List.mem_map.mp hx
    exact hr s
  obtain ⟨place, d, w⟩ := m
  cases d with
  | entered f =>
      rw [records, List.filterMap_append, hspan f (.opened · _) fun _ => rfl, List.nil_append]
      cases f <;> rfl
  | left f fault =>
      rw [records, List.filterMap_append, hspan f (.closed · _) fun _ => rfl, List.append_nil]
      cases f <;> cases fault <;> rfl
  | did i e => cases e <;> rfl
  | called i | resumed i fault | raised e | forwarded e => rfl

/-- The failures that moments tell of. -/
theorem filterMap_flatMap_records (base : List Span) (ms : List Moment) :
    (ms.flatMap (Moment.records base)).filterMap Record.failure? =
      ms.filterMap (·.deed.failure?) := by
  induction ms with
  | nil => rfl
  | cons m ms ih =>
      rw [List.flatMap_cons, List.filterMap_append, Moment.filterMap_records, ih]
      cases h : m.deed.failure? <;> simp [h]

/-- Where nothing fails, no stack tells of a failure. -/
theorem filterMap_failure?_of_smooth {ms : List Moment}
    (hms : ∀ m ∈ ms, m.deed.fault? = none) : ms.filterMap (·.deed.failure?) = [] :=
  List.filterMap_eq_nil_iff.mpr fun m hm => Deed.failure?_of_smooth (hms m hm)

/-- While a failure goes outward, the stacks that are left tell of it. -/
theorem filterMap_failure?_of_unwinds {e : Fault} {ms : List Moment}
    (hms : ∀ m ∈ ms, m.deed.Unwinds e) :
    ms.filterMap (·.deed.failure?) =
      ((ms.filterMap (·.deed.left?)).filterMap Frame.stack?).map (·, e.message) := by
  induction ms with
  | nil => rfl
  | cons m ms ih =>
      have hfirst := Deed.failure?_of_unwinds (hms m List.mem_cons_self)
      have hrest := ih fun n hn => hms n (List.mem_cons_of_mem m hn)
      rw [List.filterMap_cons, List.filterMap_cons, hfirst, hrest]
      cases hl : m.deed.left? with
      | none => rfl
      | some f => cases hf : f.stack? <;> simp [hf]

/-- The failures that an invocation tells of are those that its moments tell of. -/
theorem failures_chain (t : Terminal) (layers : List Layer) (v : Payload) (w : World) :
    (chain t.handler layers v w).2.failures =
      w.failures ++ ((narration t layers).story [] (v, w)).filterMap (·.deed.failure?) := by
  have hnested := kept_nested.always t layers [] (v, w)
  have hspans : w.spans = w.spans ++ Frame.spans [] := (List.append_nil _).symm
  obtain ⟨_, _, htrace⟩ := hnested.bracketed (follows_narration t layers [] (v, w)) hspans
  rw [World.failures, htrace, List.filterMap_append, filterMap_flatMap_records]
  rfl

/-! ## The failure of an invocation -/

/-- **Failures pass through.**  If no middleware of a chain catches a failure of the next
handler, then in every invocation

1. the answer is a failure exactly if one is raised, and it is this very failure;
2. a failure is raised once: nothing fails before it, and after it there is nothing but its
   way outward, on which context, flags, log and request counts stay as they are;
3. the stacks that it was raised in tell of it, innermost first, with its text, and no
   others do;
4. without a failure no stack tells of one. -/
theorem failure_unwinds (t : Terminal) (layers : List Layer)
    (hlayers : ∀ l ∈ layers, l.All Middleware.Forwards) (v : Payload) (w : World) :
    let story := (narration t layers).story [] (v, w)
    let answered := chain t.handler layers v w
    (∀ e, answered.1 = .error e ↔ ∃ m ∈ story, m.deed = .raised e) ∧
    (∀ e, answered.1 = .error e → ∃ before m after,
      story = before ++ m :: after ∧ m.deed = .raised e ∧
      (∀ n ∈ before, n.deed.fault? = none) ∧ (∀ n ∈ after, n.deed.Unwinds e) ∧
      m.world.Rests answered.2 ∧
      answered.2.failures =
        w.failures ++ (m.place.filterMap Frame.stack?).reverse.map (·, e.message)) ∧
    (∀ x, answered.1 = .ok x → answered.2.failures = w.failures) := by
  intro story answered
  have hfares : Fares [] (fault? answered.1) story := by
    have h := kept_fares.narration t hlayers [] (v, w)
    rwa [narration_handler] at h
  have hfollows : Follows w story answered.2 := follows_narration t layers [] (v, w)
  have hfailures := failures_chain t layers v w
  change answered.2.failures = w.failures ++ story.filterMap (·.deed.failure?) at hfailures
  clear_value story answered
  obtain ⟨answer, u⟩ := answered
  cases answer with
  | ok x =>
      have hsilent := filterMap_failure?_of_smooth hfares.smooth
      refine ⟨fun e => ⟨nofun, fun ⟨m, hm, hraised⟩ => ?_⟩, nofun, fun _ _ => ?_⟩
      · exact absurd (hfares.eq_of_raised hm hraised) nofun
      · rw [hfailures, hsilent, List.append_nil]
  | error e =>
      have hraised : ∀ e', (∃ m ∈ story, m.deed = .raised e') → e = e' := fun e' ⟨m, hm, hd⟩ =>
        Option.some.inj (hfares.eq_of_raised hm hd)
      cases hfares with
      | @failing _ before after frames u' hbefore hafter hleft =>
          refine ⟨fun e' => ⟨fun he => ?_, fun h => by rw [hraised e' h]⟩, fun e' he => ?_, nofun⟩
          · obtain rfl : e = e' := Except.error.inj he
            exact ⟨_, List.mem_append_right _ List.mem_cons_self, rfl⟩
          · obtain rfl : e = e' := Except.error.inj he
            refine ⟨before, _, after, rfl, rfl, hbefore, hafter, hfollows.split.2.rests hafter, ?_⟩
            rw [hfailures, List.filterMap_append, filterMap_failure?_of_smooth hbefore,
              List.nil_append, List.filterMap_cons_none rfl, filterMap_failure?_of_unwinds hafter,
              hleft, List.filterMap_reverse, List.nil_append]

end

/-- Two stacks of relays, one inside the other, around a handler that is offline. -/
theorem failures_marking :
    let relays : (k : StepId) → List (Relay k.Input k.Output) := fun k => match k with
      | .build => [.marking "b" .build]
      | _ => []
    let stack : String → Stack := fun id => .ofRelays { id } (.counting 0) relays
    let layers := [Layer.stack (stack "outer"), .stack (stack "inner")]
    let e : Fault := .raised "Offline" "connection reset"
    let t : Terminal := fun _ => .fail e
    let answered := chain t.handler layers Value.unit {}
    (∀ l ∈ layers, l.All Middleware.Forwards) ∧ answered.1 = .error e ∧
    answered.2.failures = [("inner", "connection reset"), ("outer", "connection reset")] ∧
    (∃ m ∈ (narration t layers).story [] (Value.unit, {}), m.deed = .raised e) := by
  intro relays stack layers e t answered
  have hstack : ∀ id, (Layer.stack (stack id)).All Middleware.Forwards := by
    intro id k m hm
    rw [Stack.holdsRelays_ofRelays _ _ relays StepId.all k (by cases k <;> decide)] at hm
    obtain ⟨r, _, rfl⟩ := List.mem_map.mp hm
    exact r.forwards
  have hlayers : ∀ l ∈ layers, l.All Middleware.Forwards :=
    List.forall_mem_cons.mpr ⟨hstack "outer", List.forall_mem_singleton.mpr (hstack "inner")⟩
  have herror : answered.1 = .error e := rfl
  have htold : answered.2.failures =
      [("inner", "connection reset"), ("outer", "connection reset")] := by decide +kernel
  exact ⟨hlayers, herror, htold, ((failure_unwinds t layers hlayers Value.unit {}).1 e).mp herror⟩

end OpStack
