import OpStack.Proofs.Gauge
import OpStack.Proofs.Relay
import OpStack.Value.Source

/-!
# OpStack.Proofs.Stack.DataFlow

What becomes of a payload and of its answer in a stack of relays.

The request for the handler is made on the way in:

1. the initialize step turns the parameters;
2. the serialize step puts one fresh request beside them and turns the pair, of which
   the request goes on;
3. the build, the finalize and the deserialize step turn the request.

The answer of the handler comes back the other way:

1. the deserialize step holds it as raw response without a result, and lets out the
   result if there is one in the end, else the raw response;
2. the finalize, the build, the serialize and the initialize step turn the result.

`invoke_eq_answer` says that the handler is called once, with this request, and that an
invocation answers with this answer.
-/

namespace OpStack.Stack

section

variable [Payloads] (rs : (k : StepId) → List (Relay k.Input k.Output))

/-- The request that the relays make of the parameters and a fresh request. -/
def requestOf (fresh v : Payload) : Payload :=
  let prepared := (rs .init).foldl (fun i r => r.pre i) ⟨v⟩
  let serialized := (rs .serialize).foldl (fun i r => r.pre i) ⟨prepared.parameters, fresh⟩
  let built := (rs .build).foldl (fun i r => r.pre i) ⟨serialized.request⟩
  let finalized := (rs .finalize).foldl (fun i r => r.pre i) built
  let last := (rs .deserialize).foldl (fun i r => r.pre i) finalized
  last.request

/-- The answer that the relays make of the handler's answer. -/
def answerOf (x : Payload) : Payload :=
  let raw := (rs .deserialize).foldr (fun r o => r.post o) ⟨x, none⟩
  let decoded := match raw.result with
    | some result => result
    | none => raw.rawResponse
  let finalized := (rs .finalize).foldr (fun r o => r.post o) ⟨decoded⟩
  let built := (rs .build).foldr (fun r o => r.post o) finalized
  let serialized := (rs .serialize).foldr (fun r o => r.post o) built
  let initialized := (rs .init).foldr (fun r o => r.post o) serialized
  initialized.result

/-- The relays hand this answer back. -/
theorem handBack_all (x : Payload) : handBack rs StepId.all x = answerOf rs x := by
  have hexit : ∀ o : RawResponse, StepId.exit .deserialize o = match o.result with
      | some result => result
      | none => o.rawResponse := by
    intro o
    cases hr : o.result <;> simp [StepId.exit, hr]
  simp only [handBack, StepId.all, List.foldr_cons, List.foldr_nil, answerOf, hexit]
  rfl

/-! ## Requests that are made on the way in -/

variable {rs}

/-- The call that comes through all steps: its request, and the counts of the sources. -/
theorem handOn_all (s : Stack) (c : Call Payload) :
    (s.handOn rs StepId.all c).1 =
        requestOf rs (s.serialize.source.make (c.2.drawn s.serialize.source.key)) c.1 ∧
      (s.handOn rs StepId.all c).2.drawn = (s.serialize.source.draw c.2).2.drawn := by
  have hdrawn : ∀ {k : StepId} (t : Step k) c, (t.handOn (rs k) c).2.drawn = (t.inward c).2.drawn :=
    fun t c => rfl
  have hinit : (s.init.handOn (rs .init) c).2.drawn = c.2.drawn := by
    rw [hdrawn, Step.drawn_inward_of_ne (by decide)]
  constructor
  · rw [← hinit]
    rfl
  · simp only [handOn, StepId.all, List.foldl_cons, List.foldl_nil, step]
    rw [hdrawn s.deserialize, Step.drawn_inward_of_ne (by decide), hdrawn s.finalize,
      Step.drawn_inward_of_ne (by decide), hdrawn s.build, Step.drawn_inward_of_ne (by decide),
      hdrawn s.serialize, Step.drawn_inward]
    simp only [RequestSource.draw, hinit]

/-- The serialize step of a stack of relays is entered once. -/
theorem length_entries_serialize {s : Stack} (hs : s.HoldsRelays rs StepId.all)
    (handler : Handler Payload Payload) (c : Call Payload) :
    (s.entries handler .serialize c).length = 1 := by
  have hinit : s.HoldsRelays rs (StepId.earlier .serialize) :=
    fun k _ => hs k (by cases k <;> decide)
  rw [entries, reach_relays hinit, List.length_singleton]

/-- **Data flow.**  Around any handler, a stack of relays calls it exactly once: with the
request made of the payload and of the next request of the source, which is the only one
drawn until then.  The invocation answers with what the relays make of the handler's
answer, or with its failure.

The state after the invocation tells of this one call: under every key it counts the one
request of the source and the requests that the handler makes in this call, and no others. -/
theorem invoke_eq_answer (s : Stack) (hs : s.HoldsRelays rs StepId.all) (v : Payload)
    (w : World) :
    let source := s.serialize.source
    let request := requestOf rs (source.make (w.drawn source.key)) v
    ∃ w' : World, w'.drawn = (source.draw w).2.drawn ∧
      ∀ handler : Handler Payload Payload,
        s.calls handler (v, w) = [(request, w')] ∧
        (s.invoke handler v w).1 = (handler request w').1.map (answerOf rs) ∧
        ∀ key d, (Gauge.drawn key).Adds handler d →
          (s.invoke handler v w).2.drawn key =
            w.drawn key + ((if key = source.key then 1 else 0) + d (request, w')) := by
  have hinward : (s.inward (v, w)).2.drawn = w.drawn := s.drawn_inward (v, w)
  obtain ⟨hrequest, hdrawn⟩ := @handOn_all _ rs s (s.inward (v, w))
  rw [hinward] at hrequest
  have hdraw : (s.serialize.source.draw (s.inward (v, w)).2).2.drawn =
      (s.serialize.source.draw w).2.drawn := by
    simp only [RequestSource.draw, hinward]
  refine ⟨(s.handOn rs StepId.all (s.inward (v, w))).2, hdrawn.trans hdraw, fun handler => ?_⟩
  obtain ⟨hcalls, hanswer⟩ := carries_invoke hs handler v w
  have hone : s.calls handler (v, w) =
      [(requestOf rs (s.serialize.source.make (w.drawn s.serialize.source.key)) v,
        (s.handOn rs StepId.all (s.inward (v, w))).2)] := by
    rw [hcalls]
    exact congrArg (fun x => [(x, _)]) hrequest
  refine ⟨hone, ?_, fun key d hd => ?_⟩
  · rw [hanswer.fst_eq, hrequest]
    exact congrArg (Except.map · _) (funext (handBack_all rs))
  · rw [Gauge.drawn_invoke key hd, length_entries_serialize hs, hone, Nat.mul_one,
      List.map_singleton, List.sum_singleton]

end

/-- Relays in all steps, around a handler that answers with the request. -/
theorem invoke_marking :
    let rs : (k : StepId) → List (Relay k.Input k.Output) := fun k => match k with
      | .init => [.marking "i" .init, .marking "j" .init]
      | .serialize => [.marking "s" .serialize]
      | .build => [.marking "b" .build]
      | .finalize => [.marking "f" .finalize]
      | .deserialize => [.marking "d" .deserialize, .marking "e" .deserialize]
    let s := ofRelays { id := "stack" } (.counting 0) rs
    s.HoldsRelays rs StepId.all ∧
    (s.invoke (fun x w => (.ok x, w)) (.strings ["v"]) {}).1 =
      .ok (.strings
        ["v", "i", "j", "s", "b", "f", "d", "e", "e", "d", "f", "b", "s", "j", "i"]) := by
  intro rs s
  have hs : s.HoldsRelays rs StepId.all := holdsRelays_ofRelays _ _ rs _
  obtain ⟨w', _, hinvoke⟩ := invoke_eq_answer s hs (.strings ["v"]) {}
  exact ⟨hs, (hinvoke _).2.1⟩

end OpStack.Stack
