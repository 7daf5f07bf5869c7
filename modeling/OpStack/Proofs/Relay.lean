import OpStack.Proofs.Arrivals
import OpStack.Value.Basic

/-!
# OpStack.Proofs.Relay

Relays: middleware that call the next handler exactly once.  A relay is given by two
functions and two lists of notes.  It logs `before`, calls the next handler with `pre`
of its input, and if the call succeeds logs `after` and answers with `post` of the
output; a failure goes back as it came.

Inside a list of relays the handler gets exactly one call, `Relay.enter`
(`arrivals_relays`), and `Carries` says what becomes of its answer: a success is turned
by a function and followed by notes, a failure is handed back with nothing added.  Steps
and stacks of relays are of the same kind (`Step.carries_relays`,
`Stack.carries_invoke`).
-/

namespace OpStack

section

variable [Payloads] {I O P Q α : Type}

/-! ## Notes -/

/-- The state with entries added to the log. -/
def World.log (w : World) (ns : List Note) : World := { w with journal := w.journal ++ ns }

@[simp] theorem World.journal_log (w : World) (ns : List Note) :
    (w.log ns).journal = w.journal ++ ns := rfl

@[simp] theorem World.log_nil (w : World) : w.log [] = w := by
  simp [log]

theorem World.log_append (w : World) (ns ms : List Note) :
    w.log (ns ++ ms) = (w.log ns).log ms := by
  simp [log]

/-- Writes the notes, then behaves as `b`. -/
def Behaviour.noting (b : Behaviour I O α) : List Note → Behaviour I O α
  | [] => b
  | n :: ns => .act (.note n) fun _ => b.noting ns

/-- Notes are written before the behaviour does anything else. -/
theorem Behaviour.run_noting (next : Handler I O) (b : Behaviour I O α) (ns : List Note)
    (w : World) : (b.noting ns).run next w = b.run next (w.log ns) := by
  induction ns generalizing w with
  | nil => rw [noting, World.log_nil]
  | cons n ns ih =>
      rw [noting, run, ih, ← List.singleton_append, World.log_append]
      rfl

/-- Notes are in the state that every call is made in. -/
theorem Behaviour.calls_noting (next : Handler I O) (b : Behaviour I O α) (ns : List Note)
    (w : World) : (b.noting ns).calls next w = b.calls next (w.log ns) := by
  induction ns generalizing w with
  | nil => rw [noting, World.log_nil]
  | cons n ns ih =>
      rw [noting, calls, ih, ← List.singleton_append, World.log_append]
      rfl

/-! ## Answers that are carried back -/

/-- The outer answer carries the inner one: a success comes turned by `f` and followed
by the notes, a failure comes as it is and with no note. -/
inductive Carries (notes : List Note) (f : P → O) :
    Except Fault P × World → Except Fault O × World → Prop where
  | ok {x : P} {w w' : World} (hlog : w'.journal = w.journal ++ notes) :
      Carries notes f (.ok x, w) (.ok (f x), w')
  | error {e : Fault} {w w' : World} (hlog : w'.journal = w.journal) :
      Carries notes f (.error e, w) (.error e, w')

namespace Carries

/-- An answer carries itself. -/
theorem refl (a : Except Fault O × World) : Carries [] (fun o => o) a a := by
  obtain ⟨answer, w⟩ := a
  cases answer with
  | ok o => exact .ok (List.append_nil _).symm
  | error e => exact .error rfl

/-- What is carried twice is carried. -/
theorem trans {ns ms : List Note} {f : P → Q} {g : Q → O} {a : Except Fault P × World}
    {b : Except Fault Q × World} {c : Except Fault O × World}
    (hab : Carries ns f a b) (hbc : Carries ms g b c) : Carries (ns ++ ms) (g ∘ f) a c := by
  cases hab with
  | ok hab =>
      cases hbc with
      | ok hbc => exact .ok (by rw [hbc, hab, List.append_assoc])
  | error hab =>
      cases hbc with
      | error hbc => exact .error (by rw [hbc, hab])

/-- The result that is carried. -/
theorem fst_eq {ns : List Note} {f : P → O} {a : Except Fault P × World}
    {b : Except Fault O × World} (h : Carries ns f a b) : b.1 = a.1.map f := by
  cases h <;> rfl

/-- A success that is carried. -/
theorem of_ok {ns : List Note} {f : P → O} {a : Except Fault P × World}
    {b : Except Fault O × World} (h : Carries ns f a b) {x : P} (ha : a.1 = .ok x) :
    b.1 = .ok (f x) ∧ b.2.journal = a.2.journal ++ ns := by
  cases h with
  | ok hlog => exact ⟨by rw [Except.ok.inj ha], hlog⟩
  | error => contradiction

/-- A failure that is carried. -/
theorem of_error {ns : List Note} {f : P → O} {a : Except Fault P × World}
    {b : Except Fault O × World} (h : Carries ns f a b) {e : Fault} (ha : a.1 = .error e) :
    b.1 = .error e ∧ b.2.journal = a.2.journal := by
  cases h with
  | ok => contradiction
  | error hlog => exact ⟨by rw [Except.error.inj ha], hlog⟩

end Carries

/-! ## Relays -/

/-- What a middleware that calls the next handler once does on the way in and on the way
out. -/
structure Relay (I O : Type) where
  id : String
  pre : I → I
  post : O → O
  before : List Note := []
  after : List Note := []

namespace Relay

def toMiddleware (r : Relay I O) : Middleware I O where
  id := r.id
  body i := (Behaviour.call (r.pre i) fun
    | .ok o => (Behaviour.finish (.ok (r.post o))).noting r.after
    | .error e => .finish (.error e)).noting r.before

/-- The one call that comes through a list of relays. -/
def enter (rs : List (Relay I O)) (c : Call I) : Call I :=
  (rs.foldl (fun i r => r.pre i) c.1, c.2.log (rs.flatMap (·.before)))

/-- The output that comes back through a list of relays, through the last one first. -/
def leave (rs : List (Relay I O)) (o : O) : O := rs.foldr (fun r o => r.post o) o

/-- The notes that a list of relays logs on the way back. -/
def notesAfter (rs : List (Relay I O)) : List Note := rs.reverse.flatMap (·.after)

theorem enter_cons (r : Relay I O) (rs : List (Relay I O)) (c : Call I) :
    enter (r :: rs) c = enter rs (r.pre c.1, c.2.log r.before) := by
  rw [enter, enter, List.flatMap_cons, World.log_append]
  rfl

theorem notesAfter_cons (r : Relay I O) (rs : List (Relay I O)) :
    notesAfter (r :: rs) = notesAfter rs ++ r.after := by
  simp [notesAfter]

/-- A relay makes one call. -/
theorem calls_body (r : Relay I O) (next : Handler I O) (c : Call I) :
    (r.toMiddleware.body c.1).calls next c.2 = [(r.pre c.1, c.2.log r.before)] := by
  rw [toMiddleware, Behaviour.calls_noting, Behaviour.calls, World.lend_none, World.offer_none]
  cases (next (r.pre c.1) (c.2.log r.before)).1 with
  | ok o => rw [Behaviour.calls_noting, Behaviour.calls]
  | error e => rw [Behaviour.calls]

/-- A relay hands the answer to its call back. -/
theorem carries_wrap (r : Relay I O) (next : Handler I O) (c : Call I) :
    Carries r.after r.post (next (r.pre c.1) (c.2.log r.before))
      (r.toMiddleware.wrap next c.1 c.2) := by
  rw [Middleware.wrap, toMiddleware, Behaviour.run_noting, Behaviour.run, World.lend_none]
  cases hnext : next (r.pre c.1) (c.2.log r.before) with
  | mk answer w =>
      cases answer with
      | ok o =>
          rw [Behaviour.run_noting, Behaviour.run]
          exact .ok rfl
      | error e => exact .error rfl

/-- One call comes through a list of relays. -/
theorem arrivals_relays (handler : Handler I O) (rs : List (Relay I O)) (c : Call I) :
    arrivals handler (rs.map toMiddleware) c = [enter rs c] := by
  induction rs generalizing c with
  | nil => simp [arrivals, enter]
  | cons r rs ih =>
      rw [List.map_cons, arrivals, calls_body, List.flatMap_singleton, ih, enter_cons]

/-- The answer to that call goes back through all of them. -/
theorem carries_within (handler : Handler I O) (rs : List (Relay I O)) (c : Call I) :
    Carries (notesAfter rs) (leave rs) (handler (enter rs c).1 (enter rs c).2)
      (within handler (rs.map toMiddleware) c.1 c.2) := by
  induction rs generalizing c with
  | nil =>
      rw [List.map_nil, within_nil, enter, List.flatMap_nil, World.log_nil]
      exact Carries.refl _
  | cons r rs ih =>
      rw [List.map_cons, within_cons, enter_cons, notesAfter_cons]
      exact (ih _).trans (r.carries_wrap _ c)

end Relay

/-! ## Steps of relays -/

/-- The envelopes of a step carry the answer of the next handler outside. -/
theorem StepId.carries_outward (k : StepId) (next : Handler Payload Payload) (c : Call k.Input) :
    Carries [] k.complete (next (k.forward c.1) c.2) (k.outward next c.1 c.2) := by
  rw [StepId.outward]
  cases next (k.forward c.1) c.2 with
  | mk answer w =>
      cases answer with
      | ok x => exact .ok (List.append_nil _).symm
      | error e => exact .error rfl

namespace Step

variable {k : StepId}

/-- A step carries the answer of its chain. -/
theorem carries_dismiss (s : Step k) (answered : Except Fault k.Output × World) :
    Carries [] k.exit answered (s.dismiss answered) := by
  obtain ⟨answer, w⟩ := answered
  cases answer with
  | ok o => exact .ok (by rw [List.append_nil]; split <;> rfl)
  | error e => exact .error (by split <;> rfl)

/-- The one call that comes through a step of relays. -/
def handOn (s : Step k) (rs : List (Relay k.Input k.Output)) (c : Call Payload) : Call Payload :=
  (k.forward (Relay.enter rs (s.inward c)).1, (Relay.enter rs (s.inward c)).2)

/-- Relays in a step hand on a single call. -/
theorem arrivals_relays (s : Step k) {rs : List (Relay k.Input k.Output)}
    (hs : s.members.order = rs.map Relay.toMiddleware) (next : Handler Payload Payload)
    (c : Call Payload) : s.arrivals next c = [s.handOn rs c] := by
  rw [arrivals, hs, Relay.arrivals_relays]
  rfl

/-- A step of relays carries the answer of the handler outside through their second halves. -/
theorem carries_relays (s : Step k) {rs : List (Relay k.Input k.Output)}
    (hs : s.members.order = rs.map Relay.toMiddleware) (next : Handler Payload Payload)
    (c : Call Payload) :
    Carries (Relay.notesAfter rs) (k.exit ∘ Relay.leave rs ∘ k.complete)
      (next (s.handOn rs c).1 (s.handOn rs c).2) (s.wrap next c.1 c.2) := by
  rw [wrap_eq, hs]
  have hout := k.carries_outward next (Relay.enter rs (s.inward c))
  have hchain := Relay.carries_within (k.outward next) rs (s.inward c)
  have hstep := (hout.trans hchain).trans (s.carries_dismiss _)
  rwa [List.nil_append, List.append_nil] at hstep

/-- On the way in, each relay has left its notes. -/
theorem journal_handOn (s : Step k) (rs : List (Relay k.Input k.Output)) (c : Call Payload) :
    (s.handOn rs c).2.journal = c.2.journal ++ rs.flatMap (·.before) := by
  rw [handOn, Relay.enter, World.journal_log, journal_inward]

end Step

/-! ## Stacks of relays -/

namespace Stack

/-- The steps `ks` of the stack hold relays. -/
def HoldsRelays (s : Stack) (rs : (k : StepId) → List (Relay k.Input k.Output))
    (ks : List StepId) : Prop :=
  ∀ k ∈ ks, (s.step k).members.order = (rs k).map Relay.toMiddleware

def ofRelays (options : StackOptions) (source : RequestSource)
    (rs : (k : StepId) → List (Relay k.Input k.Output)) : Stack :=
  holding options source fun k => (rs k).map Relay.toMiddleware

/-- The stack that is made of relays holds them. -/
theorem holdsRelays_ofRelays (options : StackOptions) (source : RequestSource)
    (rs : (k : StepId) → List (Relay k.Input k.Output)) (ks : List StepId) :
    (ofRelays options source rs).HoldsRelays rs ks :=
  fun k _ => order_holding options source _ k

variable (s : Stack) (rs : (k : StepId) → List (Relay k.Input k.Output))

/-- The one call that comes through the steps `ks`, if they hold relays. -/
def handOn (ks : List StepId) (c : Call Payload) : Call Payload :=
  ks.foldl (fun c k => (s.step k).handOn (rs k) c) c

/-- What the relays of the steps `ks` make of an answer. -/
def handBack (ks : List StepId) (x : Payload) : Payload :=
  ks.foldr (fun k x => k.exit (Relay.leave (rs k) (k.complete x))) x

def notesBefore (ks : List StepId) : List Note :=
  ks.flatMap fun k => (rs k).flatMap (·.before)

/-- The notes on the way back, in the opposite order. -/
def notesAfter (ks : List StepId) : List Note :=
  ks.reverse.flatMap fun k => Relay.notesAfter (rs k)

/-- On the way through several steps, the relays of each have left their notes. -/
theorem journal_handOn (ks : List StepId) (c : Call Payload) :
    (s.handOn rs ks c).2.journal = c.2.journal ++ notesBefore rs ks := by
  induction ks generalizing c with
  | nil => simp [handOn, notesBefore]
  | cons k ks ih =>
      rw [handOn, List.foldl_cons, ← handOn, ih, Step.journal_handOn, notesBefore, notesBefore,
        List.flatMap_cons, List.append_assoc]

variable {s rs}

/-- One call comes through steps of relays. -/
theorem reach_relays {ks : List StepId} (hs : s.HoldsRelays rs ks)
    (handler : Handler Payload Payload) (c : Call Payload) :
    s.reach handler ks c = [s.handOn rs ks c] := by
  induction ks generalizing c with
  | nil => rfl
  | cons k ks ih =>
      have hk := hs k List.mem_cons_self
      have hks : s.HoldsRelays rs ks := fun j hj => hs j (List.mem_cons_of_mem k hj)
      rw [reach, Step.arrivals_relays _ hk, List.flatMap_singleton, ih hks]
      rfl

/-- The answer to that call goes back through all of them. -/
theorem carries_around {ks : List StepId} (hs : s.HoldsRelays rs ks)
    (handler : Handler Payload Payload) (c : Call Payload) :
    Carries (notesAfter rs ks) (handBack rs ks)
      (handler (s.handOn rs ks c).1 (s.handOn rs ks c).2) (s.around handler ks c.1 c.2) := by
  induction ks generalizing c with
  | nil => exact Carries.refl _
  | cons k ks ih =>
      have hk := hs k List.mem_cons_self
      have hks : s.HoldsRelays rs ks := fun j hj => hs j (List.mem_cons_of_mem k hj)
      rw [around_cons, notesAfter, List.reverse_cons, List.flatMap_append, List.flatMap_singleton]
      exact (ih hks _).trans ((s.step k).carries_relays hk _ c)

/-- A stack carries the answer of its steps. -/
theorem carries_dismiss (answered : Except Fault Payload × World) :
    Carries [] (fun v => v) answered (s.dismiss answered) := by
  obtain ⟨answer, w⟩ := answered
  cases answer with
  | ok v => exact .ok (by rw [List.append_nil]; split <;> rfl)
  | error e => exact .error (by split <;> rfl)

/-- An invocation carries the answer to the one call that it makes. -/
theorem carries_invoke (hs : s.HoldsRelays rs StepId.all) (handler : Handler Payload Payload)
    (v : Payload) (w : World) :
    let c := s.handOn rs StepId.all (s.inward (v, w))
    s.calls handler (v, w) = [c] ∧
      Carries (notesAfter rs StepId.all) (handBack rs StepId.all) (handler c.1 c.2)
        (s.invoke handler v w) := by
  refine ⟨reach_relays hs handler _, ?_⟩
  have hstack := (carries_around hs handler (s.inward (v, w))).trans (s.carries_dismiss _)
  rw [List.append_nil] at hstack
  rw [invoke_eq]
  exact hstack

end Stack

end

/-! ## Relays that can be seen -/

/-- Adds a text to a list of texts. -/
def Value.push (text : String) : Value → Value
  | .strings texts => .strings (texts ++ [text])
  | v => v

/-- A relay that leaves its mark on what passes it.  In the serialize step it makes the
request anew, in the deserialize step it sets a result. -/
def Relay.marking (mark : String) : (k : StepId) → Relay k.Input k.Output
  | .init =>
    { id := mark, pre := fun i => ⟨Value.push mark i.parameters⟩, post := fun o => ⟨Value.push mark o.result⟩,
      before := [⟨mark, "before", .null⟩], after := [⟨mark, "after", .null⟩] }
  | .serialize =>
    { id := mark, pre := fun i => ⟨i.parameters, Value.push mark i.parameters⟩,
      post := fun o => ⟨Value.push mark o.result⟩,
      before := [⟨mark, "before", .null⟩], after := [⟨mark, "after", .null⟩] }
  | .build | .finalize =>
    { id := mark, pre := fun i => ⟨Value.push mark i.request⟩, post := fun o => ⟨Value.push mark o.result⟩,
      before := [⟨mark, "before", .null⟩], after := [⟨mark, "after", .null⟩] }
  | .deserialize =>
    { id := mark, pre := fun i => ⟨Value.push mark i.request⟩,
      post := fun o => { o with result := some (Value.push mark (o.result.getD o.rawResponse)) },
      before := [⟨mark, "before", .null⟩], after := [⟨mark, "after", .null⟩] }

end OpStack
