import OpStack.Proofs.Stack.Requests
import OpStack.Proofs.Telling

/-!
# OpStack.Proofs.Stack.Sessions

Two sessions side by side, with stacks that are related in some way and with worlds that
differ in what was told (`Beside`).

* `agree_perform` — if related stacks are alike around every terminal, an operation that calls
  the stack says the same in both sessions.
* `agree_run` — what every operation keeps, a run keeps.
* `agree_allCalls` — the terminals are called alike in both sessions, if they are in every
  call of the stack.
-/

namespace OpStack.Stack

variable [Payloads]

/-! ## Calls of the terminals -/

/-- The calls of the handler inside the stack while it is called for one payload after the
other. -/
def callsAfresh (s : Stack) (handler : Handler Payload Payload) (start : Start) :
    List Payload → World → List (Call Payload)
  | [], _ => []
  | v :: vs, w =>
    s.calls handler (v, w.begin start) ++
      s.callsAfresh handler start vs (invocation (s.decorateHandler handler) start v w).2

namespace Session

/-- The calls of the terminal during an operation. -/
def calls (s : Session) : Op → List (Call Payload)
  | .invoke v terminal start =>
    s.stack.calls terminal.handler (v, s.world.begin (start.getD s.shared))
  | .decorate vs terminal => s.stack.callsAfresh terminal.handler {} vs s.world
  | _ => []

/-- The calls of the terminals during a run. -/
def allCalls (s : Session) : List Op → List (Call Payload)
  | [] => []
  | op :: ops => s.calls op ++ (s.perform op).2.allCalls ops

/-! ## Sessions side by side -/

/-- The stacks are related, the worlds differ in what was told, and the rest is the same. -/
structure Beside (told : Accord) (kin : Stack → Stack → Prop)
    (s s' : Session) : Prop where
  stack : kin s.stack s'.stack
  spare : s'.spare = s.spare
  shared : s'.shared = s.shared
  world : (Likeness.ofTold told).Rel [] s.world s'.world

variable {told : Accord} {kin : Stack → Stack → Prop}

/-- Operations that call the stack say the same in both sessions, and keep them beside each other.
-/
theorem agree_perform
    (hkin : ∀ {s s' : Stack}, kin s s' → (Likeness.ofTold told).Wraps s.wrap s'.wrap)
    {op : Op} (hop : op.invokes = true) {s s' : Session} (h : Beside told kin s s') :
    Agree (Beside told kin) (s.perform op) (s'.perform op) := by
  obtain ⟨stack', spare', shared', w'⟩ := s'
  obtain ⟨hstack, rfl, rfl, hworld⟩ := h
  have halike : ∀ t : Terminal,
      (Likeness.ofTold told).Alike (s.stack.invoke t.handler) (stack'.invoke t.handler) :=
    fun t => hkin hstack (Likeness.alike_terminal (Likeness.does_terminal t))
  cases op with
  | invoke v t start =>
      have hone := fun start => agree_invocation (halike t) start v hworld.1.drawn hworld.2
      cases start with
      | some start =>
          exact ⟨congrArg Reply.outcome (hone start).same, hstack, rfl, rfl, (hone start).rel⟩
      | none =>
          -- the contexts go on, and they are the same in both worlds
          have hshared := congrArg₂ Start.mk (hone s.shared).rel.1.memory
            (hone s.shared).rel.1.hand
          exact ⟨congrArg Reply.outcome (hone s.shared).same, hstack, rfl, hshared,
            (hone s.shared).rel⟩
  | decorate vs t =>
      have hall := agree_eachAfresh (halike t) {} vs hworld
      exact ⟨congrArg Reply.runs hall.same, hstack, rfl, rfl, hall.rel⟩
  | on | readd | list | stepList | display | debug | debugPretty | ids | setInstrument =>
      exact absurd hop Bool.false_ne_true

/-- What every operation keeps, a run keeps. -/
theorem agree_run {rel : Session → Session → Prop} {ops : List Op}
    (hops : ∀ op ∈ ops, ∀ {s s' : Session}, rel s s' → Agree rel (s.perform op) (s'.perform op))
    {s s' : Session} (h : rel s s') : Agree rel (s.run ops) (s'.run ops) := by
  induction ops generalizing s s' with
  | nil => exact ⟨rfl, h⟩
  | cons op ops ih =>
      have hone := hops op List.mem_cons_self h
      have hothers := ih (fun op hop => hops op (List.mem_cons_of_mem _ hop)) hone.rel
      exact ⟨congrArg₂ List.cons hone.same hothers.same, hothers.rel⟩

section Calls

variable
  (hkin : ∀ {s s' : Stack}, kin s s' → (Likeness.ofTold told).Wraps s.wrap s'.wrap)
  (hcalls : ∀ {s s' : Stack}, kin s s' → ∀ (t : Terminal) {c c' : Call Payload},
    Agree ((Likeness.ofTold told).Rel []) c c' →
    List.Forall₂ (Agree World.Quiet) (s.calls t.handler c) (s'.calls t.handler c'))
include hkin hcalls

/-- Several calls reach the terminal alike. -/
theorem agree_callsAfresh {stack stack' : Stack} (hstack : kin stack stack') (t : Terminal)
    (start : Start) (vs : List Payload) {w w' : World} (h : (Likeness.ofTold told).Rel [] w w') :
    List.Forall₂ (Agree World.Quiet) (stack.callsAfresh t.handler start vs w)
      (stack'.callsAfresh t.handler start vs w') := by
  have halike : (Likeness.ofTold told).Alike (stack.invoke t.handler) (stack'.invoke t.handler) :=
    hkin hstack (Likeness.alike_terminal (Likeness.does_terminal t))
  induction vs generalizing w w' with
  | nil => exact .nil
  | cons v vs ih =>
      have hone := agree_invocation halike start v h.1.drawn h.2
      exact List.rel_append (hcalls hstack t (agree_begin start v h.1.drawn h.2)) (ih hone.rel)

/-- An operation calls its terminal alike in both sessions. -/
theorem agree_sessionCalls {s s' : Session} (h : Beside told kin s s') (op : Op) :
    List.Forall₂ (Agree World.Quiet) (s.calls op) (s'.calls op) := by
  cases op with
  | invoke v t start =>
      have hstart : start.getD s'.shared = start.getD s.shared := by rw [h.shared]
      rw [calls, calls, hstart]
      exact hcalls h.stack t (agree_begin _ v h.world.1.drawn h.world.2)
  | decorate vs t => exact agree_callsAfresh hkin hcalls h.stack t {} vs h.world
  | on | readd | list | stepList | display | debug | debugPretty | ids | setInstrument =>
      exact .nil

/-- A run calls its terminals alike in both sessions. -/
theorem agree_allCalls {ops : List Op} (hops : ∀ op ∈ ops, op.invokes = true) {s s' : Session}
    (h : Beside told kin s s') :
    List.Forall₂ (Agree World.Quiet) (s.allCalls ops) (s'.allCalls ops) := by
  induction ops generalizing s s' with
  | nil => exact .nil
  | cons op ops ih =>
      have hone := agree_perform hkin (hops op List.mem_cons_self) h
      exact List.rel_append (agree_sessionCalls hkin hcalls h op)
        (ih (fun op hop => hops op (List.mem_cons_of_mem _ hop)) hone.rel)

end Calls

end Session

end OpStack.Stack
