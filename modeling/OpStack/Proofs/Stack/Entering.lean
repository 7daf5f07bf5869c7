import OpStack.Proofs.Likeness
import OpStack.Proofs.Relay
import OpStack.Proofs.Stack.Multiplicity

/-!
# OpStack.Proofs.Stack.Entering

The order in which an invocation enters the middleware of a stack.  `entered` lists them as
they are entered, each as often as it is; like `arrivals` it follows `decorate` and
`Stack.invoke`, around an arbitrary handler.  Beside the middleware of the stack, in execution
order, this list is as follows.

* `inOrder_entered`: at every moment, those that have been entered make up a beginning of the
  stack, whatever the middleware do.
* `mem_entered`: all are entered, if none ends the invocation on its own.
* `entered_eq`: it is the same list, if each one calls the next handler once.
* `marks_invoke`: if the middleware log their names when they are entered, this list is what
  the invocation logs.

Each is shown for a list of middleware, then for a list of steps.
-/

namespace OpStack

variable {α β : Type}

/-! ## In order -/

/-- At every moment, what has happened makes up a beginning of the list. -/
def InOrder (listed happened : List β) : Prop :=
  ∀ past, past <+: happened → ∃ front, front <+: listed ∧ ∀ x, x ∈ past ↔ x ∈ front

namespace InOrder

variable {listed : List β}

theorem nil (listed : List β) : InOrder listed [] := fun past hpast =>
  ⟨[], List.nil_prefix, by simp [List.prefix_nil.mp hpast]⟩

theorem cons {happened : List β} (h : InOrder listed happened) (x : β) :
    InOrder (x :: listed) (x :: happened) := by
  intro past hpast
  cases past with
  | nil => exact ⟨[], List.nil_prefix, fun _ => Iff.rfl⟩
  | cons y past =>
      obtain ⟨rfl, hrest⟩ := List.cons_prefix_cons.mp hpast
      obtain ⟨front, hfront, hsame⟩ := h past hrest
      refine ⟨y :: front, List.cons_prefix_cons.mpr ⟨rfl, hfront⟩, fun z => ?_⟩
      simp only [List.mem_cons, hsame]

/-- What is in order twice is so one after the other: the second starts again from the front. -/
theorem append {one other : List β} (hone : InOrder listed one) (hother : InOrder listed other) :
    InOrder listed (one ++ other) := by
  intro past hpast
  rcases List.prefix_or_prefix_of_prefix hpast (List.prefix_append one other) with
    hfirst | ⟨rest, rfl⟩
  · exact hone past hfirst
  · have hrest : rest <+: other := (List.prefix_append_right_inj one).mp hpast
    obtain ⟨front, hfront, hsame⟩ := hone one (List.prefix_refl one)
    obtain ⟨front', hfront', hsame'⟩ := hother rest hrest
    -- of two beginnings the longer one has both
    rcases List.prefix_or_prefix_of_prefix hfront hfront' with hle | hle
    · refine ⟨front', hfront', fun x => ?_⟩
      rw [List.mem_append, hsame, hsame']
      exact or_iff_right_of_imp fun hx => hle.mem hx
    · refine ⟨front, hfront, fun x => ?_⟩
      rw [List.mem_append, hsame, hsame']
      exact or_iff_left_of_imp fun hx => hle.mem hx

/-- So it is for any number of times. -/
theorem flatMap {parts : α → List β} (hparts : ∀ x, InOrder listed (parts x)) (xs : List α) :
    InOrder listed (xs.flatMap parts) := by
  induction xs with
  | nil => exact .nil listed
  | cons x xs ih => exact (hparts x).append ih

end InOrder

variable [Payloads] {I O : Type}

/-! ## Lists of middleware -/

/-- What is entered by one call of the first of the middleware, in order; `beyond` is what a
call of the handler inside enters. -/
def entered (name : Middleware I O → β) (handler : Handler I O) (beyond : Call I → List β) :
    List (Middleware I O) → Call I → List β
  | [], c => beyond c
  | m :: ms, c =>
    name m :: ((m.body c.1).calls (within handler ms) c.2).flatMap
      (entered name handler beyond ms)

def Middleware.GoesOn (m : Middleware I O) : Prop :=
  ∀ (input : I) (next : Handler I O) (w : World), (m.body input).calls next w ≠ []

section

variable {name : Middleware I O → β} {handler : Handler I O} {beyond : Call I → List β}
  {listed : List β}

/-- Behind each other, middleware are entered in order. -/
theorem inOrder_entered (hbeyond : ∀ c, InOrder listed (beyond c)) (ms : List (Middleware I O))
    (c : Call I) : InOrder (ms.map name ++ listed) (entered name handler beyond ms c) := by
  induction ms generalizing c with
  | nil => exact hbeyond c
  | cons m ms ih => exact (InOrder.flatMap ih _).cons (name m)

/-- If all go on, all are entered. -/
theorem mem_entered (hbeyond : ∀ c, ∀ x ∈ listed, x ∈ beyond c) {ms : List (Middleware I O)}
    (hms : ∀ m ∈ ms, m.GoesOn) (c : Call I) :
    ∀ x ∈ ms.map name ++ listed, x ∈ entered name handler beyond ms c := by
  induction ms generalizing c with
  | nil => exact hbeyond c
  | cons m ms ih =>
      intro x hx
      rcases List.mem_cons.mp hx with rfl | hx
      · exact List.mem_cons_self
      · have hcalls := hms m List.mem_cons_self c.1 (within handler ms) c.2
        obtain ⟨d, hd⟩ := List.exists_mem_of_ne_nil _ hcalls
        have hrest := ih (fun other hother => hms other (List.mem_cons_of_mem m hother)) d x hx
        exact List.mem_cons_of_mem _ (List.mem_flatMap.mpr ⟨d, hd, hrest⟩)

/-- If each calls once, each is entered once. -/
theorem entered_eq (hbeyond : ∀ c, beyond c = listed) {ms : List (Middleware I O)}
    (hms : ∀ m ∈ ms, m.Repeats 1) (c : Call I) :
    entered name handler beyond ms c = ms.map name ++ listed := by
  induction ms generalizing c with
  | nil => exact hbeyond c
  | cons m ms ih =>
      have hlength := hms m List.mem_cons_self c.1 (within handler ms) c.2
      obtain ⟨d, hd⟩ := List.length_eq_one_iff.mp hlength
      rw [entered, hd, List.flatMap_singleton,
        ih fun other hother => hms other (List.mem_cons_of_mem m hother)]
      rfl

end

/-! ## Logs -/

/-- What the notes of the log stand for; most stand for nothing. -/
def World.marks (mark : Note → Option β) (w : World) : List β := w.journal.filterMap mark

theorem World.marks_congr {mark : Note → Option β} {w w' : World} (h : w'.journal = w.journal) :
    w'.marks mark = w.marks mark := by
  rw [marks, h, marks]

/-- Doing this leaves no mark. -/
def Effect.Unmarked (mark : Note → Option β) : Effect → Prop
  | .note n => mark n = none
  | _ => True

/-- Whenever it is entered, the middleware first of all logs its mark, and it leaves no other. -/
def Middleware.Announces (mark : Note → Option β) (x : β) (m : Middleware I O) : Prop :=
  ∀ input, ∃ n rest, m.body input = .act (.note n) rest ∧ mark n = some x ∧
    ∀ a, (rest a).Does (Effect.Unmarked mark)

section

variable {mark : Note → Option β}

/-- An effect that is not marked leaves the marks alone. -/
theorem marks_apply {e : Effect} (he : e.Unmarked mark) (w : World) :
    (e.apply w).2.marks mark = w.marks mark := by
  cases e with
  | note n =>
      have hn : mark n = none := he
      simp [Effect.apply, World.marks, List.filterMap_append, hn]
  | _ => rfl

/-- Putting the own context back at hand leaves no mark. -/
theorem marks_lend (w : World) (c : Option Nat) (body : World → α × World) :
    (w.lend c body).2.marks mark = (body (w.offer c)).2.marks mark :=
  World.marks_congr (World.journal_offer _ _)

/-- A behaviour without marks leaves those of its calls. -/
theorem marks_run {next : Handler I O} {beyond : Call I → List β}
    (hnext : ∀ c, (next c.1 c.2).2.marks mark = c.2.marks mark ++ beyond c)
    {b : Behaviour I O α} (hb : b.Does (Effect.Unmarked mark)) (w : World) :
    (b.run next w).2.marks mark = w.marks mark ++ (b.calls next w).flatMap beyond := by
  induction b generalizing w with
  | finish result => exact (List.append_nil _).symm
  | callOn c input resume ih =>
      have hanswered := hnext (input, w.offer c)
      rw [World.marks_congr (w.journal_offer c)] at hanswered
      rw [Behaviour.run, ih _ (hb _), marks_lend, hanswered, Behaviour.calls, List.flatMap_cons,
        List.append_assoc]
  | actOn c e resume ih =>
      rw [Behaviour.run, ih _ (hb.2 _), marks_lend, marks_apply hb.1,
        World.marks_congr (w.journal_offer c), Behaviour.calls]

/-- Middleware that announce themselves leave the marks of what is entered. -/
theorem marks_within {name : Middleware I O → β} {handler : Handler I O}
    {beyond : Call I → List β}
    (hhandler : ∀ c, (handler c.1 c.2).2.marks mark = c.2.marks mark ++ beyond c)
    {ms : List (Middleware I O)} (hms : ∀ m ∈ ms, m.Announces mark (name m)) (c : Call I) :
    (within handler ms c.1 c.2).2.marks mark =
      c.2.marks mark ++ entered name handler beyond ms c := by
  induction ms generalizing c with
  | nil => exact hhandler c
  | cons m ms ih =>
      obtain ⟨n, rest, hbody, hn, hrest⟩ := hms m List.mem_cons_self c.1
      have hnext := ih fun other hother => hms other (List.mem_cons_of_mem m hother)
      have hnote : ((Effect.note n).apply c.2).2.marks mark = c.2.marks mark ++ [name m] := by
        simp [Effect.apply, World.marks, List.filterMap_append, hn]
      rw [within_cons, Middleware.wrap, entered, hbody, Behaviour.run,
        marks_run hnext (hrest _), World.lend_none, hnote, Behaviour.calls, World.lend_none,
        List.append_assoc, List.singleton_append]

end

/-! ## Steps -/

namespace Step

variable {k : StepId}

/-- The steps and identifiers of what is entered by a call of the step. -/
def entered (s : Step k) (next : Handler Payload Payload)
    (beyond : Call Payload → List (StepId × String)) (c : Call Payload) : List (StepId × String) :=
  OpStack.entered (fun m => (k, m.id)) (k.outward next)
    (fun c => beyond (k.forward c.1, c.2)) s.members.order (s.inward c)

/-- Leaving a step logs nothing. -/
theorem journal_dismiss (s : Step k) (answered : Except Fault k.Output × World) :
    (s.dismiss answered).2.journal = answered.2.journal := by
  unfold dismiss
  split <;> rfl

/-- A step whose middleware announce themselves logs what is entered. -/
theorem marks_wrap {mark : Note → Option (StepId × String)} (s : Step k)
    (hs : ∀ m ∈ s.members.order, m.Announces mark (k, m.id)) {next : Handler Payload Payload}
    {beyond : Call Payload → List (StepId × String)}
    (hnext : ∀ c, (next c.1 c.2).2.marks mark = c.2.marks mark ++ beyond c) (c : Call Payload) :
    (s.wrap next c.1 c.2).2.marks mark = c.2.marks mark ++ s.entered next beyond c := by
  have houtward : ∀ d : Call k.Input, (k.outward next d.1 d.2).2.marks mark =
      d.2.marks mark ++ beyond (k.forward d.1, d.2) := fun d => hnext (k.forward d.1, d.2)
  have hchain := marks_within houtward hs (s.inward c)
  rw [World.marks_congr (s.journal_inward c)] at hchain
  rw [wrap_eq, World.marks_congr (s.journal_dismiss _)]
  exact hchain

end Step

/-! ## Stacks -/

namespace Stack

/-- The steps and identifiers of what is entered by a call of the first of the steps `ks`. -/
def enteredFrom (s : Stack) (handler : Handler Payload Payload) :
    List StepId → Call Payload → List (StepId × String)
  | [], _ => []
  | k :: ks, c => (s.step k).entered (s.around handler ks) (s.enteredFrom handler ks) c

variable (s : Stack)

/-- The steps and identifiers of what an invocation enters, in order. -/
def entered (handler : Handler Payload Payload) (c : Call Payload) : List (StepId × String) :=
  s.enteredFrom handler StepId.all (s.inward c)

/-- The middleware of the steps `ks`, in execution order. -/
def places (ks : List StepId) : List (StepId × String) :=
  ks.flatMap fun k => (s.step k).members.order.map fun m => (k, m.id)

theorem places_cons (k : StepId) (ks : List StepId) :
    s.places (k :: ks) = (s.step k).members.order.map (fun m => (k, m.id)) ++ s.places ks := rfl

/-- Steps are entered in order, and within each of them its middleware. -/
theorem inOrder_enteredFrom (handler : Handler Payload Payload) (ks : List StepId)
    (c : Call Payload) : InOrder (s.places ks) (s.enteredFrom handler ks c) := by
  induction ks generalizing c with
  | nil => exact .nil _
  | cons k ks ih =>
      rw [places_cons]
      exact inOrder_entered (fun d => ih (k.forward d.1, d.2)) _ _

/-- If all go on, all of them are entered. -/
theorem mem_enteredFrom (handler : Handler Payload Payload) {ks : List StepId}
    (hs : ∀ k ∈ ks, ∀ m ∈ (s.step k).members.order, m.GoesOn) (c : Call Payload) :
    ∀ x ∈ s.places ks, x ∈ s.enteredFrom handler ks c := by
  induction ks generalizing c with
  | nil => exact fun x hx => hx
  | cons k ks ih =>
      have hrest := ih fun j hj => hs j (List.mem_cons_of_mem k hj)
      rw [places_cons]
      exact mem_entered (fun d => hrest (k.forward d.1, d.2)) (hs k List.mem_cons_self) _

/-- If each calls once, the list is that of the places. -/
theorem enteredFrom_eq (handler : Handler Payload Payload) {ks : List StepId}
    (hs : ∀ k ∈ ks, ∀ m ∈ (s.step k).members.order, m.Repeats 1) (c : Call Payload) :
    s.enteredFrom handler ks c = s.places ks := by
  induction ks generalizing c with
  | nil => rfl
  | cons k ks ih =>
      have hrest := ih fun j hj => hs j (List.mem_cons_of_mem k hj)
      rw [places_cons]
      exact entered_eq (fun d => hrest (k.forward d.1, d.2)) (hs k List.mem_cons_self) _

/-- Steps whose middleware announce themselves leave the marks of what is entered. -/
theorem marks_around {mark : Note → Option (StepId × String)} {handler : Handler Payload Payload}
    (hhandler : ∀ c : Call Payload, (handler c.1 c.2).2.marks mark = c.2.marks mark)
    {ks : List StepId}
    (hs : ∀ k ∈ ks, ∀ m ∈ (s.step k).members.order, m.Announces mark (k, m.id))
    (c : Call Payload) :
    (s.around handler ks c.1 c.2).2.marks mark =
      c.2.marks mark ++ s.enteredFrom handler ks c := by
  induction ks generalizing c with
  | nil => exact (hhandler c).trans (List.append_nil _).symm
  | cons k ks ih =>
      have hrest := ih fun j hj => hs j (List.mem_cons_of_mem k hj)
      exact (s.step k).marks_wrap (hs k List.mem_cons_self) hrest c

/-- Leaving a stack logs nothing. -/
theorem journal_dismiss (answered : Except Fault Payload × World) :
    (s.dismiss answered).2.journal = answered.2.journal := by
  obtain ⟨answer, w⟩ := answered
  unfold dismiss
  cases answer <;> split <;> rfl

/-- If all middleware announce themselves, an invocation logs what it enters. -/
theorem marks_invoke {mark : Note → Option (StepId × String)} {handler : Handler Payload Payload}
    (hhandler : ∀ c : Call Payload, (handler c.1 c.2).2.marks mark = c.2.marks mark)
    (hs : ∀ k, ∀ m ∈ (s.step k).members.order, m.Announces mark (k, m.id)) (v : Payload)
    (w : World) :
    (s.invoke handler v w).2.marks mark = w.marks mark ++ s.entered handler (v, w) := by
  rw [invoke_eq, World.marks_congr (s.journal_dismiss _),
    s.marks_around hhandler fun k _ => hs k, World.marks_congr (s.journal_inward _), entered]

end Stack

end OpStack
