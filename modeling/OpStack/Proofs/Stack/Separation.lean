import OpStack.Proofs.Registry.Sound
import OpStack.Proofs.Stack.Entering
import OpStack.Proofs.Stack.Requests

/-!
# OpStack.Proofs.Stack.Separation

A stack is five separate steps.  Of the operations of a session each step has its share: those
that are addressed to it.  A step of the stack is what its share makes of a step on its own
(`step_run`), whatever is done to the other steps and whatever is invoked in between.

The stack lists its steps in execution order, and the identifiers under which they hold their
middleware are those of the middleware themselves (`Sound`), so that invocations enter them in
the order of the list (`entersInOrder`).
-/

namespace OpStack

variable [Payloads]

/-! ## A step on its own -/

namespace Step

variable {k : StepId}

/-- The members of a step are those of its registry. -/
theorem Performed.members_ofMembers (s : Step k)
    (p : Registry.Performed (Middleware k.Input k.Output)) :
    (ofMembers s p).step.members = p.registry := by
  rw [ofMembers]
  cases p.reply <;> rfl

/-- No operation leaves middleware under identifiers that are not theirs. -/
theorem Op.sound_perform (op : Op k) {s : Step k} (h : Registry.Sound s.members) :
    Registry.Sound (op.perform s).step.members := by
  cases op with
  | setInstrument wanted => exact h
  | info => exact h
  | _ =>
      rw [perform, Performed.members_ofMembers]
      exact h.perform _

/-- A new step that stands alone, like those of a new stack. -/
def Session.fresh (options : StackOptions) (source : RequestSource) (k : StepId) : Session k where
  step := { source := k.source source, instrument := options.instrument }

end Step

namespace Stack

/-- A new stack has new steps. -/
theorem step_new (options : StackOptions) (source : RequestSource) (k : StepId) :
    (new options source).step k = (Step.Session.fresh options source k).step := by
  cases k <;> rfl

theorem id_withStep (s : Stack) (k : StepId) (t : Step k) : (s.withStep k t).id = s.id := by
  cases k <;> rfl

theorem step_setInstrument (s : Stack) (wanted : Bool) (k : StepId) :
    (s.setInstrument wanted).step k = { s.step k with instrument := wanted } := by
  cases k <;> rfl

namespace Session

/-! ## What a step is asked -/

/-- The operation on the step `k` that is meant, if it is this step that is addressed.  The
flag of a stack is that of all its steps. -/
def Op.addressed? (k : StepId) : Op → Option (Step.Op k)
  | on j op => if h : j = k then some (h ▸ op) else none
  | setInstrument wanted => some (.setInstrument wanted)
  | _ => none

/-- The same in a session, where the middleware taken out last can be added again. -/
def asks? (s : Session) (k : StepId) : Op → Option (Step.Op k)
  | .readd j position => if j = k then (s.spareFor k).map (.add · position) else none
  | op => op.addressed? k

/-- The operations of a run that the step `k` is asked to perform. -/
def share (s : Session) (k : StepId) : List Op → List (Step.Op k)
  | [] => []
  | op :: ops => (s.asks? k op).toList ++ (s.perform op).2.share k ops

def Op.readds : Op → Bool
  | readd .. => true
  | _ => false

/-- Without such operations the share of a step can be read off the run. -/
theorem share_eq_filterMap (s : Session) (k : StepId) {ops : List Op}
    (hops : ∀ op ∈ ops, op.readds = false) : s.share k ops = ops.filterMap (Op.addressed? k) := by
  induction ops generalizing s with
  | nil => rfl
  | cons op ops ih =>
      have hrest := ih (s.perform op).2 fun other hother =>
        hops other (List.mem_cons_of_mem op hother)
      have hasks : s.asks? k op = op.addressed? k := by
        cases op with
        | readd j position => exact absurd (hops _ List.mem_cons_self).symm Bool.false_ne_true
        | _ => rfl
      rw [share, hrest, hasks, List.filterMap_cons]
      cases op.addressed? k <;> rfl

/-! ## Steps in a session -/

/-- An operation on a step leaves the others. -/
theorem step_performOn_of_ne (s : Session) {j k : StepId} (h : k ≠ j) (op : Step.Op j) :
    (s.performOn j op).2.stack.step k = s.stack.step k :=
  s.stack.step_withStep_of_ne _ h

/-- An operation does to a step what the step is asked, and nothing else. -/
theorem step_perform (s : Session) (k : StepId) (op : Op) :
    (s.perform op).2.stack.step k =
      (s.asks? k op).elim (s.stack.step k) fun asked => (asked.perform (s.stack.step k)).step := by
  cases op with
  | on j op =>
      by_cases hjk : j = k
      · subst hjk
        simp [perform, performOn, asks?, Op.addressed?]
      · have hkj : k ≠ j := fun h => hjk h.symm
        simp [perform, asks?, Op.addressed?, hjk, step_performOn_of_ne s hkj]
  | readd j position =>
      by_cases hjk : j = k
      · subst hjk
        rw [perform, asks?, if_pos rfl]
        cases s.spareFor j with
        | none => rfl
        | some m => exact s.stack.step_withStep j _
      · have hkj : k ≠ j := fun h => hjk h.symm
        rw [perform, asks?, if_neg hjk]
        cases s.spareFor j with
        | none => rfl
        | some m => exact step_performOn_of_ne s hkj _
  | setInstrument wanted => exact s.stack.step_setInstrument wanted k
  | invoke v terminal start => cases start <;> rfl
  | _ => rfl

/-- A step of the stack is what its share of the run makes of a step on its own. -/
theorem step_run {s : Session} {k : StepId} {t : Step.Session k} (h : s.stack.step k = t.step)
    (ops : List Op) :
    (s.run ops).2.stack.step k = (t.run ((s.share k ops).map .on)).2.step := by
  induction ops generalizing s t with
  | nil => exact h
  | cons op ops ih =>
      have hstep := s.step_perform k op
      rw [h] at hstep
      cases hasks : s.asks? k op with
      | none =>
          rw [hasks] at hstep
          rw [run, share, hasks]
          exact ih hstep
      | some asked =>
          rw [hasks] at hstep
          rw [run, share, hasks]
          exact ih (t := (t.perform (.on asked)).2) hstep

/-- In a run, every step stays sound. -/
theorem sound_run {s : Session} {k : StepId} (h : Registry.Sound (s.stack.step k).members)
    (ops : List Op) : Registry.Sound ((s.run ops).2.stack.step k).members := by
  induction ops generalizing s with
  | nil => exact h
  | cons op ops ih =>
      refine ih ?_
      rw [step_perform]
      cases s.asks? k op with
      | none => exact h
      | some asked => exact asked.sound_perform h

/-- No operation changes the identifier of the stack. -/
theorem id_perform (s : Session) (op : Op) : (s.perform op).2.stack.id = s.stack.id := by
  cases op with
  | on k op => exact s.stack.id_withStep k _
  | readd k position =>
      rw [perform]
      split
      · exact s.stack.id_withStep k _
      · rfl
  | invoke v terminal start => cases start <;> rfl
  | _ => rfl

theorem id_run (s : Session) (ops : List Op) : (s.run ops).2.stack.id = s.stack.id := by
  induction ops generalizing s with
  | nil => rfl
  | cons op ops ih => exact (ih _).trans (s.id_perform op)

/-- Invocations leave the stack as it is. -/
theorem stack_perform_of_invokes (s : Session) {op : Op} (hop : op.invokes = true) :
    (s.perform op).2.stack = s.stack := by
  cases op with
  | invoke v terminal start => cases start <;> rfl
  | decorate vs terminal => rfl
  | _ => contradiction

end Session

/-! ## The order of the list -/

/-- The steps and identifiers that the stack lists. -/
def listed (s : Stack) : List (StepId × String) :=
  StepId.all.flatMap fun k => (s.step k).list.map (k, ·)

/-- Invocations enter the middleware in the order of the list: no two have the same place in it;
those that have been entered are at every moment a beginning of it; these are all in the end,
if none of the middleware ends the invocation; and each is entered once, if each calls the next
handler once.  What is entered can be seen in the log, if all middleware announce themselves. -/
structure EntersInOrder (s : Stack) : Prop where
  distinct : s.listed.Nodup
  inOrder (handler : Handler Payload Payload) (c : Call Payload) :
    InOrder s.listed (s.entered handler c)
  everything : (∀ k, ∀ m ∈ (s.step k).members.order, m.GoesOn) →
    ∀ (handler : Handler Payload Payload) (c : Call Payload), ∀ x ∈ s.listed, x ∈ s.entered handler c
  once : (∀ k, ∀ m ∈ (s.step k).members.order, m.Repeats 1) →
    ∀ (handler : Handler Payload Payload) (c : Call Payload), s.entered handler c = s.listed
  logged (mark : Note → Option (StepId × String)) (handler : Handler Payload Payload) :
    (∀ c : Call Payload, (handler c.1 c.2).2.marks mark = c.2.marks mark) →
    (∀ k, ∀ m ∈ (s.step k).members.order, m.Announces mark (k, m.id)) →
    ∀ v w, (s.invoke handler v w).2.marks mark = w.marks mark ++ s.entered handler (v, w)

/-- The list of a sound stack names its middleware. -/
theorem listed_eq_places {s : Stack} (hs : ∀ k, Registry.Sound (s.step k).members) :
    s.listed = s.places StepId.all := by
  rw [listed, places]
  congr 1
  funext k
  rw [Step.list, (hs k).readsAgree.ids, List.map_map]
  rfl

/-- No two middleware have the same place in the list. -/
theorem nodup_listed {s : Stack} (hs : ∀ k, Registry.Sound (s.step k).members) :
    s.listed.Nodup := by
  rw [listed, List.nodup_flatMap]
  refine ⟨fun k _ => (hs k).distinct.map (Prod.mk_right_injective k), ?_⟩
  have hall : StepId.all.Nodup := by decide
  refine hall.imp fun {k j} hkj x hk hj => ?_
  obtain ⟨id, -, hid⟩ := List.mem_map.mp hk
  obtain ⟨other, -, hother⟩ := List.mem_map.mp hj
  exact hkj (congrArg Prod.fst (hid.trans hother.symm))

/-- A sound stack is entered in the order of its list. -/
theorem entersInOrder {s : Stack} (hs : ∀ k, Registry.Sound (s.step k).members) :
    s.EntersInOrder where
  distinct := nodup_listed hs
  inOrder handler c := by
    rw [listed_eq_places hs]
    exact s.inOrder_enteredFrom handler _ _
  everything hgo handler c := by
    rw [listed_eq_places hs]
    exact s.mem_enteredFrom handler (fun k _ => hgo k) _
  once honce handler c := by
    rw [listed_eq_places hs]
    exact s.enteredFrom_eq handler (fun k _ => honce k) _
  logged mark handler hhandler hall := s.marks_invoke hhandler hall

namespace Session

/-- What a step on its own tells the caller, as a stack tells it. -/
def Reply.ofStep : Step.Session.Reply → Reply
  | .of reply list => .of reply list
  | .nothing list => .nothing list
  | .outcome o => .outcome o

/-- **Five steps that stand alone.**  After any run of operations on a new stack,

1. each step is what it would be on its own, after its share of the run;
2. its share are the operations addressed to it, where adding what was taken out last is an
   operation of its own;
3. the next operation on a step is answered as by the step on its own, and takes the same
   middleware out;
4. invocations leave the stack as it is;
5. the list of the stack is its identifier, and for each step in execution order its name and
   what it lists on its own, which is also told step by step;
6. invocations enter the middleware in this order. -/
theorem steps_separate (options : StackOptions) (source : RequestSource) (ops : List Op) :
    let fresh : Session := { stack := .new options source }
    let s := (fresh.run ops).2
    let alone (k : StepId) : Step.Session k :=
      ((Step.Session.fresh options source k).run ((fresh.share k ops).map .on)).2
    (∀ k, s.stack.step k = (alone k).step) ∧
    (∀ k, (∀ op ∈ ops, op.readds = false) →
      fresh.share k ops = ops.filterMap (Op.addressed? k)) ∧
    (∀ k op, (s.perform (.on k op)).1 = .ofStep ((alone k).perform (.on op)).1) ∧
    (∀ k op m, (op.perform (s.stack.step k)).removed = some m →
      (s.perform (.on k op)).2.spareFor k = some m ∧
        ((alone k).perform (.on op)).2.spare = some m) ∧
    (∀ k position m, s.spareFor k = some m →
      (s.perform (.readd k position)).1 = .ofStep ((alone k).perform (.on (.add m position))).1) ∧
    (∀ op, op.invokes = true → (s.perform op).2.stack = s.stack) ∧
    (s.perform .list).1 =
      .texts (options.id :: StepId.all.flatMap fun k => k.name :: (alone k).step.list) ∧
    (∀ k, (s.perform (.stepList k)).1 = .texts (alone k).step.list) ∧
    s.stack.EntersInOrder := by
  intro fresh s alone
  have hstep : ∀ k, s.stack.step k = (alone k).step := fun k =>
    step_run (step_new options source k) ops
  refine ⟨hstep, fun k => fresh.share_eq_filterMap k, ?_, ?_, ?_, ?_, ?_, ?_, ?_⟩
  · intro k op
    rw [perform, performOn, hstep k]
    rfl
  · intro k op m hremoved
    constructor
    · simp [perform, performOn, spareFor, hremoved]
    · rw [hstep k] at hremoved
      simp [Step.Session.perform, Step.Session.performOn, hremoved]
  · intro k position m hspare
    rw [perform, hspare]
    dsimp only
    rw [performOn, hstep k]
    rfl
  · exact fun op => s.stack_perform_of_invokes
  · have hid : s.stack.id = options.id := fresh.id_run ops
    show Reply.texts s.stack.list = _
    rw [list, hid]
    simp only [hstep]
  · intro k
    rw [← hstep k]
    rfl
  · refine entersInOrder fun k => sound_run ?_ ops
    rw [step_new]
    exact Registry.sound_empty

end Session

end Stack

end OpStack
