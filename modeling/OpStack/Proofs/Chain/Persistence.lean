import Mathlib.Data.List.Basic
import OpStack.Invocation
import OpStack.Proofs.Chain.Unwinding
import OpStack.Stack.Session
import OpStack.Value.Source

/-!
# OpStack.Proofs.Chain.Persistence

Nothing that was done to a context is undone when a call fails.

`Memory.replay` does to the contexts and their flags what behaviours did to them in some moments,
one effect after the other, each to the context that it was done to, no matter which of their
calls failed later or what became of their answers.

* `Follows.memory`, `Follows.drawn`: contexts, flags and request counts are at every moment what
  the moments so far make of the first ones.
* `Follows.context`, `Follows.isRaised`: what this says of one context and of one flag.
* `Behaviour.Steadfast`: behaviours that keep to the context they are given; if all do, all
  effects are done to the one context (`Steadied`).
* `rests_of_resumed`: what a behaviour finds when a call comes back with a failure is the state
  in which the failure was raised (`InFlight`).
* `Narrated.sequel`, `Stack.Session.history`: several invocations with one context.

`effects_persist` puts them together.
-/

namespace OpStack

section

variable [Payloads] {I O α : Type}

/-! ## What effects make of contexts -/

/-- What the effect makes of the context that it is done to. -/
def Effect.revise : Effect → Context → Context
  | setExtension v, c => { c with extensions := c.extensions.setValue v }
  | writeExtension v, c => { c with extensions := c.extensions.writeValue v }
  | removeExtension k, c => { c with extensions := c.extensions.erase k }
  | setDeadline d, c => { c with deadline := some d }
  | note _, c | remark _, c | readExtension _, c | cancel, c | isCancelled, c | isExpired, c
  | deadline, c | clone, c | fresh, c | exchange _, c => c

theorem Effect.flag_revise (e : Effect) (c : Context) : (e.revise c).flag = c.flag := by
  cases e <;> rfl

/-- No effect changes which flag a context shares. -/
theorem flag_foldl_revise (es : List Effect) (c : Context) :
    (es.foldl (fun c e => e.revise c) c).flag = c.flag := by
  induction es generalizing c with
  | nil => rfl
  | cons e es ih => rw [List.foldl_cons, ih, e.flag_revise]

/-- What the effect makes of all contexts and flags, done to the context with the number. -/
def Effect.change (i : Nat) : Effect → Memory → Memory
  | cancel, x => x.cancel i
  | clone, x => x.add (x.contexts i).clone
  | fresh, x => x.addFresh
  | exchange j, x => x.exchange i j
  | e, x => x.alter i e.revise

theorem Memory.alter_id (x : Memory) (i : Nat) : x.alter i (fun c => c) = x := by
  have hcontexts : (fun j => if j = i then x.contexts i else x.contexts j) = x.contexts := by
    funext j
    split
    · next h => rw [h]
    · rfl
  rw [alter, hcontexts]

/-- The change is made to the context at hand. -/
theorem Effect.memory_apply (e : Effect) (w : World) :
    (e.apply w).2.toMemory = e.change w.hand w.toMemory := by
  cases e with
  | note n | remark r | readExtension k | isCancelled | isExpired | deadline =>
      exact (Memory.alter_id _ _).symm
  | setExtension v | writeExtension v | removeExtension k | cancel | setDeadline d | clone | fresh
  | exchange j => rfl

/-- What the deed makes of the contexts and flags. -/
def Deed.change : Deed → Memory → Memory
  | did i e, x => e.change i x
  | _, x => x

/-- The effect, if the deed is one. -/
def Deed.effect? : Deed → Option Effect
  | did _ e => some e
  | _ => none

/-- The effect, if the deed is one on the context with the number. -/
def Deed.effectOn? (i : Nat) : Deed → Option Effect
  | did j e => if j = i then some e else none
  | _ => none

/-- The key of the request that is made by the deed, if it makes one. -/
def Deed.request? : Deed → Option Nat
  | entered (.step _ _ _ key) => key
  | _ => none

/-- The contexts and flags after all effects of the moments, in order. -/
def Memory.replay (x : Memory) (ms : List Moment) : Memory :=
  ms.foldl (fun x m => m.deed.change x) x

def effects (ms : List Moment) : List Effect := ms.filterMap (·.deed.effect?)

/-- The effects of the moments on the context with the number, in order. -/
def effectsOn (i : Nat) (ms : List Moment) : List Effect := ms.filterMap (·.deed.effectOn? i)

def requests (ms : List Moment) : List Nat := ms.filterMap (·.deed.request?)

/-- Moments one after the other. -/
theorem Memory.replay_append (x : Memory) (ms ns : List Moment) :
    x.replay (ms ++ ns) = (x.replay ms).replay ns :=
  List.foldl_append

theorem count_requests_cons (key : Nat) (m : Moment) (ms : List Moment) :
    (requests (m :: ms)).count key =
      m.deed.request?.toList.count key + (requests ms).count key := by
  cases h : m.deed.request? with
  | none => simp [requests, h]
  | some k => simp [requests, h, List.count_cons, Nat.add_comm]

/-! ## What deeds make of the state -/

/-- Entering a frame does nothing to contexts and flags. -/
theorem Frame.memory_enter (f : Frame) (w : World) : (f.enter w).toMemory = w.toMemory := by
  cases f with
  | stack id instrument => cases instrument <;> rfl
  | step id instrument members key => cases key <;> cases instrument <;> rfl

/-- Whatever happens, contexts and flags change by the effect, if it is one. -/
theorem Deed.memory_apply (d : Deed) (w : World) :
    (d.apply w).toMemory = d.change w.toMemory := by
  cases d with
  | entered f => exact f.memory_enter w
  | left f fault => exact (f.quiet_leave fault w).memory
  | did i e => exact e.memory_apply (w.offer (some i))
  | called i | resumed i fault | raised e | forwarded e => rfl

/-- Whatever happens, a source has made one request more if this is a request of it. -/
theorem Deed.drawn_apply (d : Deed) (w : World) (key : Nat) :
    (d.apply w).drawn key = w.drawn key + d.request?.toList.count key := by
  cases d with
  | entered f =>
      cases f with
      | stack id instrument => cases instrument <;> rfl
      | step id instrument members k =>
          cases k with
          | none => cases instrument <;> rfl
          | some k =>
              have henter : (Frame.enter (.step id instrument members (some k)) w).drawn =
                  (w.drawUnder k).drawn := by
                cases instrument <;> rfl
              rw [apply, henter, World.drawUnder]
              by_cases hk : key = k
              · simp [request?, hk]
              · simp [request?, hk, Ne.symm hk]
  | left f fault => exact congrFun (f.quiet_leave fault w).drawn key
  | did i e => cases e <;> rfl
  | called i | resumed i fault | raised e | forwarded e => rfl

namespace Follows

variable {w w' : World} {ms : List Moment}

/-- Contexts and flags are what all effects make of the first ones. -/
theorem memory (h : Follows w ms w') : w'.toMemory = w.toMemory.replay ms := by
  induction ms generalizing w with
  | nil => rw [show w' = w from h]; rfl
  | cons m ms ih => rw [ih h.2, h.1, Deed.memory_apply]; rfl

/-- Every request is counted. -/
theorem drawn (h : Follows w ms w') (key : Nat) :
    w'.drawn key = w.drawn key + (requests ms).count key := by
  induction ms generalizing w with
  | nil => rw [show w' = w from h]; rfl
  | cons m ms ih =>
      rw [ih h.2, h.1, Deed.drawn_apply, count_requests_cons, Nat.add_assoc]

end Follows

/-! ## One context -/

/-- The deed puts another context in the place of the one with the number. -/
def Deed.Displaces (i : Nat) : Deed → Prop
  | did j (.exchange k) => j = i ∨ k = i
  | _ => False

/-- What an effect makes of a context that is there and stays in its place. -/
theorem Effect.context_change (e : Effect) (i j : Nat) (x : Memory) (hi : i < x.made)
    (hplace : ¬ (Deed.did j e).Displaces i) :
    i < (e.change j x).made ∧
      (e.change j x).contexts i = if j = i then e.revise (x.contexts i) else x.contexts i := by
  have halter : (x.alter j e.revise).contexts i =
      if j = i then e.revise (x.contexts i) else x.contexts i := by
    by_cases hj : j = i
    · simp [Memory.alter, hj]
    · simp [Memory.alter, hj, Ne.symm hj]
  have hadd (c : Context) : i < (x.add c).made ∧ (x.add c).contexts i = x.contexts i := by
    constructor
    · exact Nat.lt_succ_of_lt hi
    · exact if_neg (Nat.ne_of_lt hi)
  cases e with
  | cancel => exact ⟨hi, (ite_self _).symm⟩
  | clone =>
      obtain ⟨hmade, hcontext⟩ := hadd (x.contexts j).clone
      exact ⟨hmade, hcontext.trans (ite_self _).symm⟩
  | fresh =>
      obtain ⟨hmade, hcontext⟩ := hadd { flag := x.families }
      exact ⟨hmade, hcontext.trans (ite_self _).symm⟩
  | exchange k =>
      obtain ⟨hj, hk⟩ := not_or.mp hplace
      refine ⟨hi, ?_⟩
      rw [if_neg hj]
      exact (if_neg (Ne.symm hj)).trans (if_neg (Ne.symm hk))
  | note n | remark r | setExtension v | readExtension k | writeExtension v | removeExtension k
  | isCancelled | isExpired | deadline | setDeadline d => exact ⟨hi, halter⟩

/-- The context, if it was there before and stays in its place, is what the effects on it make of
it, one after the other. -/
theorem Follows.context {w w' : World} {ms : List Moment} (h : Follows w ms w') {i : Nat}
    (hi : i < w.made) (hplace : ∀ m ∈ ms, ¬ m.deed.Displaces i) :
    w'.contexts i = (effectsOn i ms).foldl (fun c e => e.revise c) (w.contexts i) := by
  induction ms generalizing w with
  | nil => rw [show w' = w from h]; rfl
  | cons m ms ih =>
      obtain ⟨hm, hrest⟩ := h
      have hmemory := m.deed.memory_apply w
      rw [← hm] at hmemory
      have hfirst : i < m.world.made ∧ m.world.contexts i =
          (m.deed.effectOn? i).elim (w.contexts i) fun e => e.revise (w.contexts i) := by
        rw [hmemory]
        cases hd : m.deed with
        | did j e =>
            have hstays := hplace m List.mem_cons_self
            rw [hd] at hstays
            obtain ⟨hmade, hcontext⟩ := e.context_change i j w.toMemory hi hstays
            refine ⟨hmade, hcontext.trans ?_⟩
            by_cases hj : j = i <;> simp [Deed.effectOn?, hj]
        | _ => exact ⟨hi, rfl⟩
      rw [ih hrest hfirst.1 fun n hn => hplace n (List.mem_cons_of_mem m hn), hfirst.2, effectsOn,
        effectsOn, List.filterMap_cons]
      cases m.deed.effectOn? i <;> rfl

/-- The moment is that a behaviour cancels a context which has the flag. -/
def Moment.Cancels (flag : Nat) (m : Moment) : Prop :=
  ∃ i, m.deed = .did i .cancel ∧ (m.world.contexts i).flag = flag

/-- A flag is raised if it was before, or a context that has it is cancelled. -/
theorem Follows.isRaised {w w' : World} {ms : List Moment} (h : Follows w ms w') (flag : Nat) :
    w'.flags.isRaised flag = true ↔
      w.flags.isRaised flag = true ∨ ∃ m ∈ ms, m.Cancels flag := by
  induction ms generalizing w with
  | nil => rw [show w' = w from h]; simp
  | cons m ms ih =>
      obtain ⟨hm, hrest⟩ := h
      have hmemory := m.deed.memory_apply w
      rw [← hm] at hmemory
      have hfirst : m.world.flags.isRaised flag = true ↔
          w.flags.isRaised flag = true ∨ m.Cancels flag := by
        by_cases hcancel : ∃ i, m.deed = .did i .cancel
        · obtain ⟨i, hd⟩ := hcancel
          rw [hd] at hmemory
          have hcancels : m.Cancels flag ↔ (w.contexts i).flag = flag := by
            rw [Moment.Cancels, hmemory, hd]
            constructor
            · rintro ⟨j, hj, hflag⟩
              cases hj
              exact hflag
            · exact fun hflag => ⟨i, rfl, hflag⟩
          rw [hmemory, hcancels]
          simp only [Deed.change, Effect.change, Memory.cancel, Flags.isRaised_raise,
            Bool.or_eq_true, beq_iff_eq]
          exact or_comm.trans (or_congr_right eq_comm)
        · have hflags : m.world.flags = w.flags := by
            rw [hmemory]
            cases hd : m.deed with
            | did i e =>
                cases e with
                | cancel => exact absurd ⟨i, hd⟩ hcancel
                | _ => rfl
            | _ => rfl
          have hcancels : ¬ m.Cancels flag := fun ⟨i, hd, _⟩ => hcancel ⟨i, hd⟩
          rw [hflags, or_iff_left hcancels]
      rw [ih hrest, hfirst, List.exists_mem_cons_iff, or_assoc]

/-! ## Behaviours that keep to their context -/

/-- The behaviour names no context but its own, and puts no other in its place. -/
def Behaviour.Steadfast : Behaviour I O α → Prop
  | finish _ => True
  | callOn c _ resume => c = none ∧ ∀ answer, (resume answer).Steadfast
  | actOn c e resume => c = none ∧ (∀ j, e ≠ .exchange j) ∧ ∀ answer, (resume answer).Steadfast

def Middleware.Steadfast (m : Middleware I O) : Prop := ∀ input, (m.body input).Steadfast

def Terminal.Steadfast (t : Terminal) : Prop := ∀ v, (t v).Steadfast

/-- If the deed is an effect, it is one on the context with the number, which stays in its place. -/
def Deed.KeepsTo (i : Nat) : Deed → Prop
  | did j e => j = i ∧ ∀ k, e ≠ .exchange k
  | _ => True

/-- All effects of a call are done to the context that is handed on with it. -/
structure Narrated.Steadied (t : Narrated I O) : Prop extends t.Faithful where
  keeps (place : List Frame) (c : Call I) : ∀ m ∈ t.story place c, m.deed.KeepsTo c.2.hand

/-- The effects of a behaviour that keeps to its context are done to the one at hand. -/
theorem Behaviour.keepsTo_story {next : Narrated I O} (hnext : next.Steadied)
    (place : List Frame) {b : Behaviour I O α} (hb : b.Steadfast) (pending : Option Fault)
    (w : World) : ∀ m ∈ b.story next place pending w, m.deed.KeepsTo w.hand := by
  induction b generalizing pending w with
  | finish result =>
      cases result with
      | ok a => exact List.forall_mem_nil _
      | error e =>
          refine List.forall_mem_singleton.mpr ?_
          dsimp only
          split <;> trivial
  | callOn c input resume ih =>
      obtain ⟨rfl, hresume⟩ := hb
      have hrest := ih (next.handler input w).1 (hresume _) (fault? (next.handler input w).1)
        (next.handler input w).2
      rw [hnext.hand input w] at hrest
      exact List.forall_mem_cons.mpr ⟨trivial, List.forall_mem_append.mpr
        ⟨hnext.keeps place (input, w), List.forall_mem_cons.mpr ⟨trivial, hrest⟩⟩⟩
  | actOn c e resume ih =>
      obtain ⟨rfl, hexchange, hresume⟩ := hb
      have hrest := ih (e.apply w).1 (hresume _) none (e.apply w).2
      rw [e.hand_apply w] at hrest
      exact List.forall_mem_cons.mpr ⟨⟨rfl, hexchange⟩, hrest⟩

/-- Every layer of such middleware hands on the context that it was given. -/
theorem passed_steadied : Passed Middleware.Steadfast fun _ t => t.Steadied where
  around m hm hnext :=
    { toFaithful := hnext.toFaithful.around m
      keeps := fun place c => Behaviour.keepsTo_story hnext place (hm c.1) none c.2 }
  carried forward complete hnext :=
    { toFaithful := hnext.toFaithful.carried forward complete
      keeps := fun place c => hnext.keeps place (forward c.1, c.2) }
  framed f into exit hinner :=
    { toFaithful := hinner.toFaithful.framed f into exit
      keeps := fun place c => by
        have hinside := hinner.keeps (place ++ [f]) (into c, f.enter c.2)
        rw [f.hand_enter] at hinside
        exact List.forall_mem_cons.mpr ⟨trivial, List.forall_mem_append.mpr
          ⟨hinside, List.forall_mem_singleton.mpr trivial⟩⟩ }

/-- So it is with a terminal, which has no one to hand it on to. -/
theorem Terminal.Steadfast.narrated {t : Terminal} (ht : t.Steadfast) : t.narrated.Steadied where
  toFaithful := t.faithful
  keeps place c :=
    Behaviour.keepsTo_story ⟨Narrated.faithful_nowhere, fun _ c => c.1.elim⟩ place (ht c.1) none c.2

/-- Effects that are all done to one context are the effects on it. -/
theorem effectsOn_eq_effects {i : Nat} {ms : List Moment} (h : ∀ m ∈ ms, m.deed.KeepsTo i) :
    effectsOn i ms = effects ms := by
  refine List.filterMap_congr fun m hm => ?_
  have hkeeps := h m hm
  cases hd : m.deed with
  | did j e =>
      rw [hd] at hkeeps
      exact if_pos hkeeps.1
  | _ => rfl

/-- An effect that keeps to a context puts no other in its place. -/
theorem Deed.KeepsTo.not_displaces {i : Nat} {d : Deed} (h : d.KeepsTo i) : ¬ d.Displaces i := by
  cases d with
  | did j e =>
      cases e with
      | exchange k => exact absurd rfl (h.2 k)
      | _ => exact id
  | _ => exact id

/-- If all effects are done to one context, they make of it what it becomes, and it is cancelled if
any of them cancels. -/
theorem Follows.steadied {w w' : World} {ms : List Moment} (h : Follows w ms w') {i : Nat}
    (hi : i < w.made) (hms : ∀ m ∈ ms, m.deed.KeepsTo i) :
    w'.contexts i = (effects ms).foldl (fun c e => e.revise c) (w.contexts i) ∧
      (w'.flags.isRaised (w.contexts i).flag = true ↔
        w.flags.isRaised (w.contexts i).flag = true ∨ .cancel ∈ effects ms) := by
  have hplace (m : Moment) (hm : m ∈ ms) : ¬ m.deed.Displaces i := (hms m hm).not_displaces
  constructor
  · rw [h.context hi hplace, effectsOn_eq_effects hms]
  · rw [h.isRaised]
    refine or_congr_right ⟨fun ⟨m, hm, j, hd, _⟩ => ?_, fun hcancel => ?_⟩
    · exact List.mem_filterMap.mpr ⟨m, hm, by rw [hd]; rfl⟩
    · obtain ⟨m, hm, he⟩ := List.mem_filterMap.mp hcancel
      obtain ⟨j, hd⟩ : ∃ j, m.deed = .did j .cancel := by
        cases hd : m.deed <;> rw [hd] at he <;> simp_all [Deed.effect?]
      have hkeeps := hms m hm
      rw [hd] at hkeeps
      obtain rfl : j = i := hkeeps.1
      obtain ⟨before, after, rfl⟩ := List.append_of_mem hm
      -- until then only effects that leave the flag alone have been done to the context
      have hcontext := h.split.1.context hi fun n hn => hplace n <| by
        rcases List.mem_append.mp hn with hn | hn
        · exact List.mem_append_left _ hn
        · exact List.mem_append_right _ (List.mem_singleton.mp hn ▸ List.mem_cons_self)
      exact ⟨m, hm, j, hd, by rw [hcontext, flag_foldl_revise]⟩

/-! ## Where a failure came from -/

/-- In the moments the failure, if there is one, was raised, and since then it has been on its
way outward. -/
def InFlight : Option Fault → List Moment → Prop
  | none, _ => True
  | some e, ms => ∃ front m back,
    ms = front ++ m :: back ∧ m.deed = .raised e ∧ ∀ n ∈ back, n.deed.Unwinds e

/-- What has just been raised is in flight. -/
theorem InFlight.of_raised (past : List Moment) {m : Moment} {e : Fault} (hm : m.deed = .raised e) :
    InFlight (some e) (past ++ [m]) :=
  ⟨past, m, [], rfl, hm, List.forall_mem_nil _⟩

/-- A failure stays in flight while it is handed outward. -/
theorem InFlight.concat {past : List Moment} {m : Moment} {r : Option Fault}
    (h : InFlight r past) (hm : ∀ e, r = some e → m.deed.Unwinds e) :
    InFlight r (past ++ [m]) := by
  cases r with
  | none => trivial
  | some e =>
      obtain ⟨front, n, back, rfl, hn, hback⟩ := h
      refine ⟨front, n, back ++ [m], by rw [List.append_assoc, List.cons_append], hn, ?_⟩
      exact List.forall_mem_append.mpr ⟨hback, List.forall_mem_singleton.mpr (hm e rfl)⟩

/-- Every moment is of a kind, given the ones before it, of which the first are `past`. -/
def Throughout (p : List Moment → Moment → Prop) : List Moment → List Moment → Prop
  | _, [] => True
  | past, m :: ms => p past m ∧ Throughout p (past ++ [m]) ms

namespace Throughout

variable {p : List Moment → Moment → Prop} {past ms ns : List Moment}

theorem append_iff :
    Throughout p past (ms ++ ns) ↔ Throughout p past ms ∧ Throughout p (past ++ ms) ns := by
  induction ms generalizing past with
  | nil => simp [Throughout]
  | cons m ms ih =>
      simp only [List.cons_append, Throughout, ih, and_assoc, List.append_cons past m ms]

/-- What holds throughout holds at each moment, after those before it. -/
theorem split {before after : List Moment} {m : Moment}
    (h : Throughout p past (before ++ m :: after)) : p (past ++ before) m :=
  (append_iff.mp h).2.1

end Throughout

/-- The failure that a call comes back with, if the deed is that it comes back. -/
def Deed.resumed? : Deed → Option Fault
  | resumed _ fault => fault
  | _ => none

/-- If a call comes back with a failure, the failure was in flight. -/
def Resumes (past : List Moment) (m : Moment) : Prop := InFlight m.deed.resumed? past

/-- The moments after `past`, and the failure that they end with: wherever a failure comes
back, and in the end, it is in flight. -/
structure Accounted (past ms : List Moment) (fault : Option Fault) : Prop where
  resumes : Throughout Resumes past ms
  ends : InFlight fault (past ++ ms)

namespace Accounted

variable {past ms ns : List Moment} {m : Moment} {r : Option Fault}

theorem nil (h : InFlight r past) : Accounted past [] r :=
  ⟨trivial, by rwa [List.append_nil]⟩

theorem cons (hm : Resumes past m) (h : Accounted (past ++ [m]) ms r) :
    Accounted past (m :: ms) r :=
  ⟨⟨hm, h.resumes⟩, by rw [List.append_cons]; exact h.ends⟩

/-- A call whose failure was thrown away, and what is done after it. -/
theorem append (hms : Throughout Resumes past ms) (h : Accounted (past ++ ms) ns r) :
    Accounted past (ms ++ ns) r :=
  ⟨Throughout.append_iff.mpr ⟨hms, h.resumes⟩, by rw [← List.append_assoc]; exact h.ends⟩

end Accounted

/-- When a behaviour resumes with a failure, this one is in flight; it ends with one that is, or
raises it. -/
theorem Behaviour.accounted_story (next : Narrated I O)
    (hnext : ∀ place c past,
      Accounted past (next.story place c) (fault? (next.handler c.1 c.2).1))
    (place : List Frame) (b : Behaviour I O α) {pending : Option Fault} (w : World)
    {past : List Moment} (hpending : InFlight pending past) :
    Accounted past (b.story next place pending w) (fault? (b.run next.handler w).1) := by
  induction b generalizing pending w past with
  | finish result =>
      cases result with
      | ok a => exact .nil trivial
      | error e =>
          -- either the failure that the last call came back with, or a new one
          rw [story, ending]
          split
          · next hforward =>
              rw [hforward] at hpending
              exact .cons trivial (.nil (hpending.concat fun e' he => Option.some.inj he))
          · exact .cons trivial (.nil (.of_raised past rfl))
  | callOn c input resume ih =>
      rw [story, run]
      refine .cons trivial ?_
      have hinner := hnext place (input, w.offer c)
        (past ++ [⟨place, .called (w.offer c).hand, w.offer c⟩])
      exact .append hinner.resumes (.cons hinner.ends (ih _ _ (hinner.ends.concat fun _ he => he)))
  | actOn c e resume ih => exact .cons trivial (ih _ _ trivial)

/-- Every layer accounts for the failure that it answers with. -/
theorem kept_accounted : Kept (fun _ => True) fun _ t => ∀ place c past,
    Accounted past (t.story place c) (fault? (t.handler c.1 c.2).1) where
  terminal t place c past :=
    Behaviour.accounted_story .nowhere (fun _ c => c.1.elim) place (t c.1) c.2 trivial
  around m _ hnext place c past :=
    Behaviour.accounted_story _ hnext place (m.body c.1) c.2 trivial
  carried forward complete hnext place c past := by
    have hinner := hnext place (forward c.1, c.2) past
    rwa [← fault?_map complete] at hinner
  framed f into exit hinner place c past := by
    refine .cons trivial ?_
    rw [Narrated.framed, fault?_map]
    have hinside := hinner (place ++ [f]) (into c, f.enter c.2)
      (past ++ [⟨place, .entered f, f.enter c.2⟩])
    exact .append hinside.resumes
      (.cons trivial (.nil (hinside.ends.concat fun _ he => he)))

/-- What a behaviour finds when a call comes back with a failure is the state in which the
failure was raised, with its own context at hand. -/
theorem rests_of_resumed (t : Terminal) (layers : List Layer) (c : Call Payload)
    {before after : List Moment} {m : Moment} {i : Nat} {e : Fault}
    (hstory : (narration t layers).story [] c = before ++ m :: after)
    (hm : m.deed = .resumed i (some e)) :
    m.world.hand = i ∧ ∃ front r back, before = front ++ r :: back ∧ r.deed = .raised e ∧
      (∀ n ∈ back, n.deed.Unwinds e) ∧ r.world.Rests m.world := by
  have hresumes := (kept_accounted.always t layers [] c []).resumes
  have hfollows := follows_narration t layers [] c
  rw [hstory] at hresumes hfollows
  obtain ⟨u, -, hlast, -⟩ := Follows.append_iff.mp hfollows
  have hhand : m.world.hand = i := by
    rw [hlast, hm]
    rfl
  have hback := hresumes.split
  rw [Resumes, hm] at hback
  obtain ⟨front, r, back, rfl, hr, hback⟩ := hback
  refine ⟨hhand, front, r, back, rfl, hr, hback, ?_⟩
  rw [List.append_assoc, List.cons_append] at hfollows
  refine hfollows.split.2.split.1.rests (List.forall_mem_append.mpr ⟨hback, ?_⟩)
  rw [List.forall_mem_singleton, hm]
  rfl

/-! ## Invocations with one context -/

/-- What happens in invocations one after the other that go on with one context. -/
def Narrated.sequel (t : Narrated Payload Payload) (s : Start) : List Payload → World → List Moment
  | [], _ => []
  | v :: vs, w =>
    let answered := t.handler v (w.begin s)
    t.story [] (v, w.begin s) ++ t.sequel answered.2.toStart vs answered.2

/-- At the moment the contexts and flags are what all effects so far make of `x`. -/
def Remembers (x : Memory) (past : List Moment) (m : Moment) : Prop :=
  m.world.toMemory = x.replay (past ++ [m])

/-- At every moment of a run, contexts and flags are those replayed so far. -/
theorem Follows.remembers {x : Memory} {past ms : List Moment} {w w' : World}
    (h : Follows w ms w') (hw : w.toMemory = x.replay past) :
    Throughout (Remembers x) past ms := by
  induction ms generalizing past w with
  | nil => trivial
  | cons m ms ih =>
      have hfirst : Follows w [m] m.world := ⟨h.1, rfl⟩
      have hm : m.world.toMemory = x.replay (past ++ [m]) := by
        rw [Memory.replay_append, ← hw, hfirst.memory]
      exact ⟨hm, ih h.2 hm⟩

section Sequel

variable (t : Terminal) (layers : List Layer)

/-- So it is at every moment of several invocations. -/
theorem remembers_sequel (vs : List Payload) {x : Memory} {s : Start} {past : List Moment}
    (hs : s.toMemory = x.replay past) (w : World) :
    Throughout (Remembers x) past ((narration t layers).sequel s vs w) := by
  induction vs generalizing s past w with
  | nil => trivial
  | cons v vs ih =>
      have hfollows := follows_narration t layers [] (v, w.begin s)
      rw [Narrated.sequel, narration_handler]
      -- the others start with the contexts that the first one left
      refine Throughout.append_iff.mpr ⟨hfollows.remembers hs, ih ?_ _⟩
      rw [Memory.replay_append, ← hs]
      exact hfollows.memory

/-- Several invocations leave the contexts that all their effects make. -/
theorem memory_eachOnward (v : Payload) (vs : List Payload) (s : Start) (w : World) :
    (eachOnward (chain t.handler layers) s (v :: vs) w).2.toMemory =
      s.toMemory.replay ((narration t layers).sequel s (v :: vs) w) := by
  induction vs generalizing v s w with
  | nil =>
      rw [Narrated.sequel, Narrated.sequel, List.append_nil]
      exact (follows_narration t layers [] (v, w.begin s)).memory
  | cons v' vs ih =>
      have hfirst := (follows_narration t layers [] (v, w.begin s)).memory
      rw [eachOnward, Narrated.sequel, narration_handler, Memory.replay_append]
      refine (ih v' _ _).trans ?_
      exact congrArg (Memory.replay · _) hfirst

/-- Invocations one after the other have the same context at hand. -/
theorem hand_eachOnward (v : Payload) (vs : List Payload) (s : Start) (w : World) :
    (eachOnward (chain t.handler layers) s (v :: vs) w).2.hand = s.hand := by
  induction vs generalizing v s w with
  | nil => exact hand_chain t layers v (w.begin s)
  | cons v' vs ih => exact (ih v' _ _).trans (hand_chain t layers v (w.begin s))

/-- Several invocations count all requests that were made in them. -/
theorem drawn_eachOnward (vs : List Payload) (s : Start) (w : World) (key : Nat) :
    (eachOnward (chain t.handler layers) s vs w).2.drawn key =
      w.drawn key + (requests ((narration t layers).sequel s vs w)).count key := by
  induction vs generalizing s w with
  | nil => rfl
  | cons v vs ih =>
      have hfirst := (follows_narration t layers [] (v, w.begin s)).drawn key
      rw [eachOnward, Narrated.sequel, narration_handler, requests, List.filterMap_append,
        List.count_append, ← Nat.add_assoc]
      refine (ih _ _).trans ?_
      exact congrArg (· + _) hfirst

end Sequel

namespace Stack.Session

/-- What happens in the operation, if it is an invocation with the context that is kept. -/
def told (s : Session) : Op → List Moment
  | .invoke v t none => (narration t [.stack s.stack]).story [] (v, s.world.begin s.shared)
  | _ => []

/-- What happens in the invocations with the context that is kept. -/
def history (s : Session) : List Op → List Moment
  | [] => []
  | op :: ops => s.told op ++ (s.perform op).2.history ops

/-- An operation does to the kept context what is done in its invocation, if it is one. -/
theorem shared_perform (s : Session) (op : Op) :
    (s.perform op).2.shared.toMemory = s.shared.toMemory.replay (s.told op) ∧
      (s.perform op).2.shared.hand = s.shared.hand := by
  cases op with
  | readd k position =>
      rw [perform]
      split <;> exact ⟨rfl, rfl⟩
  | invoke v t start =>
      cases start with
      | none =>
          exact ⟨(follows_narration t [.stack s.stack] [] (v, s.world.begin s.shared)).memory,
            hand_chain t [.stack s.stack] v (s.world.begin s.shared)⟩
      | some start => exact ⟨rfl, rfl⟩
  | on k op | list | stepList k | display | debug | debugPretty | ids | setInstrument wanted
  | decorate vs t => exact ⟨rfl, rfl⟩

/-- A run does to the kept context what is done in all its invocations. -/
theorem shared_run (s : Session) (ops : List Op) :
    (s.run ops).2.shared.toMemory = s.shared.toMemory.replay (s.history ops) ∧
      (s.run ops).2.shared.hand = s.shared.hand := by
  induction ops generalizing s with
  | nil => exact ⟨rfl, rfl⟩
  | cons op ops ih =>
      obtain ⟨hmemory, hhand⟩ := s.shared_perform op
      obtain ⟨hmemory', hhand'⟩ := ih (s.perform op).2
      refine ⟨?_, hhand'.trans hhand⟩
      rw [run, hmemory', hmemory, history, Memory.replay_append]

end Stack.Session

/-! ## What a failure leaves -/

/-- **Effects survive failures.**  Whatever the middleware of a chain catch or call again, and
whatever contexts they hand on,

1. after an invocation, with or without a failure, and at every moment of it, all contexts and
   flags are what all effects so far make of the first ones, in the order in which they happened
   and wherever they did, all requests so far are counted, and the caller has its own context
   at hand again;
2. where a call comes back with a failure, the state is the one in which this failure was
   raised, apart from trace and active spans, and the caller has its own context at hand;
3. each context that was there before, unless another one was put in its place, is what the
   effects on it make of it, in order; a flag is raised if it was before or a context which has
   it was cancelled;
4. so if all keep to the context that they are given, this one context is what all effects make
   of it, in order, and it is cancelled if it was before or anybody cancelled;
5. invocations one after the other with one context are like a single one: each goes on
   with what all effects before it have made of the contexts;
6. so it is with the context that a session keeps, whatever else is done to the stack
   between its invocations. -/
theorem effects_persist :
    (∀ (t : Terminal) (layers : List Layer) (v : Payload) (w : World),
      let story := (narration t layers).story [] (v, w)
      let answered := chain t.handler layers v w
      (answered.2.toMemory = w.toMemory.replay story ∧ answered.2.hand = w.hand ∧
        ∀ key, answered.2.drawn key = w.drawn key + (requests story).count key) ∧
      (∀ before m after, story = before ++ m :: after →
        m.world.toMemory = w.toMemory.replay (before ++ [m]) ∧
        (∀ key, m.world.drawn key = w.drawn key + (requests (before ++ [m])).count key) ∧
        ∀ i e, m.deed = .resumed i (some e) → m.world.hand = i ∧ ∃ front r back,
          before = front ++ r :: back ∧ r.deed = .raised e ∧
          (∀ n ∈ back, n.deed.Unwinds e) ∧ r.world.Rests m.world) ∧
      (∀ i < w.made, (∀ m ∈ story, ¬ m.deed.Displaces i) →
        answered.2.contexts i =
          (effectsOn i story).foldl (fun c e => e.revise c) (w.contexts i)) ∧
      (∀ flag, answered.2.flags.isRaised flag = true ↔
        w.flags.isRaised flag = true ∨ ∃ m ∈ story, m.Cancels flag) ∧
      ((∀ l ∈ layers, l.All Middleware.Steadfast) → t.Steadfast → w.hand < w.made →
        answered.2.context = (effects story).foldl (fun c e => e.revise c) w.context ∧
        (answered.2.flags.isRaised w.context.flag = true ↔
          w.flags.isRaised w.context.flag = true ∨ .cancel ∈ effects story))) ∧
    (∀ (t : Terminal) (layers : List Layer) (s : Start) (v : Payload) (vs : List Payload)
        (w : World),
      let story := (narration t layers).sequel s (v :: vs) w
      let all := eachOnward (chain t.handler layers) s (v :: vs) w
      all.2.toMemory = s.toMemory.replay story ∧ all.2.hand = s.hand ∧
      (∀ key, all.2.drawn key = w.drawn key + (requests story).count key) ∧
      ∀ before m after, story = before ++ m :: after →
        m.world.toMemory = s.toMemory.replay (before ++ [m])) ∧
    (∀ (s : Stack.Session) (ops : List Stack.Session.Op),
      (s.run ops).2.shared.toMemory = s.shared.toMemory.replay (s.history ops) ∧
      (s.run ops).2.shared.hand = s.shared.hand) := by
  refine ⟨fun t layers v w => ?_, fun t layers s v vs w => ⟨?_, ?_, ?_, ?_⟩,
    Stack.Session.shared_run⟩
  · have hfollows := follows_narration t layers [] (v, w)
    refine ⟨⟨hfollows.memory, hand_chain t layers v w, hfollows.drawn⟩,
      fun before m after hstory => ?_, fun i hi => hfollows.context hi, hfollows.isRaised,
      fun hlayers ht hhand => ?_⟩
    · have hsplit := hfollows
      rw [hstory] at hsplit
      have hmoment := hsplit.split.1
      exact ⟨hmoment.memory, hmoment.drawn,
        fun i e he => rests_of_resumed t layers (v, w) hstory he⟩
    · have hkeeps := (passed_steadied.narration ht.narrated hlayers).keeps [] (v, w)
      rw [Start.context, hand_chain]
      exact hfollows.steadied hhand hkeeps
  · exact memory_eachOnward t layers v vs s w
  · exact hand_eachOnward t layers v vs s w
  · exact drawn_eachOnward t layers (v :: vs) s w
  · intro before m after hstory
    have hnone : s.toMemory = s.toMemory.replay [] := rfl
    have hall := remembers_sequel t layers (v :: vs) hnone w
    rw [hstory] at hall
    exact hall.split

end

/-- A middleware catches the failure of a stack whose build step and handler have each done
something to the context before the handler failed. -/
theorem memory_of_caught :
    let storing : Middleware Request Response :=
      ⟨"storing", fun i => .act (.setExtension (.u32 1)) fun _ => .call i .finish⟩
    let catching : Middleware Payload Payload :=
      ⟨"catching", fun v => .call v fun _ => .act (.removeExtension Kind.bool) fun _ =>
        .finish (.ok Value.unit)⟩
    let stack : Stack := .holding { id := "stack" } (.counting 0) fun k => match k with
      | .build => [storing]
      | _ => []
    let e : Fault := .raised "Offline" "connection reset"
    let t : Terminal := fun _ => .act .cancel fun _ => .act (.setExtension (.u8 7)) fun _ => .fail e
    let layers := [Layer.plain catching, .stack stack]
    let w : World := { Start.new none false [Value.bool true] with }
    let story := (narration t layers).story [] (Value.unit, w)
    let answered := chain t.handler layers Value.unit w
    (∀ l ∈ layers, l.All Middleware.Steadfast) ∧ t.Steadfast ∧
    answered.1 = .ok Value.unit ∧
    answered.2.context.extensions.cells = [(Kind.u8, .u8 7), (Kind.u32, .u32 1)] ∧
    answered.2.flags.isRaised 0 = true ∧ answered.2.drawn 0 = 1 ∧
    w.toMemory.replay story = answered.2.toMemory ∧
    answered.2.context = (effects story).foldl (fun c e => e.revise c) w.context ∧
    ∃ front r back m after, story = (front ++ r :: back) ++ m :: after ∧
      m.place = [] ∧ m.deed = .resumed 0 (some e) ∧ r.deed = .raised e ∧ r.world.Rests m.world := by
  intro storing catching stack e t layers w story answered
  have hlayers : ∀ l ∈ layers, l.All Middleware.Steadfast := by
    refine List.forall_mem_cons.mpr ⟨fun _ => ⟨rfl, fun _ => ⟨rfl, nofun, fun _ => trivial⟩⟩,
      List.forall_mem_singleton.mpr fun k m hm => ?_⟩
    rw [show (stack.step k).members.order = _ from Stack.order_holding _ _ _ k] at hm
    cases k with
    | build =>
        obtain rfl := List.mem_singleton.mp hm
        exact fun _ => ⟨rfl, nofun, fun _ => ⟨rfl, fun _ => trivial⟩⟩
    | init | serialize | finalize | deserialize => exact absurd hm List.not_mem_nil
  have ht : t.Steadfast := fun _ => ⟨rfl, nofun, fun _ => ⟨rfl, nofun, fun _ => trivial⟩⟩
  obtain ⟨⟨hreplay, -, -⟩, hmoments, -, -, hsteadfast⟩ :=
    effects_persist.1 t layers Value.unit w
  refine ⟨hlayers, ht, rfl, rfl, rfl, rfl, hreplay.symm,
    (hsteadfast hlayers ht Nat.zero_lt_one).1, ?_⟩
  obtain ⟨m, hm, hplace, hresumed⟩ :
      ∃ m ∈ story, m.place = [] ∧ m.deed = .resumed 0 (some e) :=
    ⟨_, List.mem_of_getElem? (i := 20) rfl, rfl, rfl⟩
  obtain ⟨before, after, hstory⟩ := List.append_of_mem hm
  obtain ⟨-, front, r, back, rfl, hr, -, hrests⟩ :=
    (hmoments before m after hstory).2.2 0 e hresumed
  exact ⟨front, r, back, m, after, hstory, hplace, hresumed, hr, hrests⟩

/-- If a middleware hands on a clone, what is stored in it stays in it, and to cancel it cancels the
context that it was made from. -/
example :
    let cloning : Middleware Payload Payload :=
      ⟨"cloning", fun v => .act .clone fun i => .callOn (some i) v .finish⟩
    let t : Terminal := fun v => .act .cancel fun _ => .act (.setExtension (.u8 7)) fun _ =>
      .finish (.ok v)
    let answered := chain t.handler [.plain cloning] Value.unit {}
    answered.2.context.extensions.cells = [] ∧
      (answered.2.contexts 1).extensions.cells = [(Kind.u8, .u8 7)] ∧
      answered.2.flags.isRaised answered.2.context.flag = true :=
  ⟨rfl, rfl, rfl⟩

end OpStack
