import OpStack.Proofs.Relay
import OpStack.Value.Source

/-!
# OpStack.Proofs.Stack.Onion

The order in which a stack logs.  Its middleware are relays, which log before and after
the one call that each makes.

* An invocation that succeeds logs on the way in in execution order, then what the
  handler logs, then on the way back in the opposite order; if the handler fails the way
  back is silent.
* A middleware may end the invocation: it logs and answers on its own.  Then the way in
  stops at it, whatever stands behind it, and nothing behind it runs.  If it answers with
  a success the way back starts at it, otherwise there is none.

`onion_order` says this for every stack and every place in it.
-/

namespace OpStack

section

variable [Payloads] {I O : Type}

/-! ## Middleware that end an invocation -/

/-- A middleware that logs and answers without a call of the next handler. -/
def Middleware.ending (id : String) (before : List Note) (answer : I → Except Fault O) :
    Middleware I O where
  id
  body i := (Behaviour.finish (answer i)).noting before

section

variable {id : String} {before : List Note} {answer : I → Except Fault O}

theorem Middleware.wrap_ending (next : Handler I O) (c : Call I) :
    (ending id before answer).wrap next c.1 c.2 = (answer c.1, c.2.log before) := by
  rw [wrap, ending, Behaviour.run_noting, Behaviour.run]

theorem Middleware.calls_ending (next : Handler I O) (c : Call I) :
    ((ending id before answer).body c.1).calls next c.2 = [] := by
  rw [ending, Behaviour.calls_noting, Behaviour.calls]

/-- Nothing arrives behind a middleware that ends the invocation. -/
theorem arrivals_ending (handler : Handler I O) (rs : List (Relay I O))
    (ms : List (Middleware I O)) (c : Call I) :
    arrivals handler (rs.map Relay.toMiddleware ++ .ending id before answer :: ms) c = [] := by
  rw [arrivals_append, Relay.arrivals_relays, List.flatMap_singleton, arrivals,
    Middleware.calls_ending, List.flatMap_nil]

/-- Its answer goes back through the relays before it. -/
theorem carries_ending (handler : Handler I O) (rs : List (Relay I O))
    (ms : List (Middleware I O)) (c : Call I) :
    Carries (Relay.notesAfter rs) (Relay.leave rs)
      (answer (Relay.enter rs c).1, (Relay.enter rs c).2.log before)
      (within handler (rs.map Relay.toMiddleware ++ .ending id before answer :: ms) c.1 c.2) := by
  have hchain := Relay.carries_within
    (within handler (.ending id before answer :: ms)) rs c
  rwa [within_cons, Middleware.wrap_ending, ← within_cons, ← within_append] at hchain

end

namespace Stack

variable {s : Stack} {rs : (k : StepId) → List (Relay k.Input k.Output)} {k : StepId}
  {xs : List (Relay k.Input k.Output)} {id : String} {before : List Note}
  {answer : k.Input → Except Fault k.Output} {ys : List (Middleware k.Input k.Output)}

/-- The call of the middleware that ends the invocation. -/
def lastCall (s : Stack) (rs : (k : StepId) → List (Relay k.Input k.Output)) (k : StepId)
    (xs : List (Relay k.Input k.Output)) (c : Call Payload) : Call k.Input :=
  Relay.enter xs ((s.step k).inward (s.handOn rs k.earlier (s.inward c)))

/-- What was logged until then. -/
theorem journal_lastCall (c : Call Payload) :
    (s.lastCall rs k xs c).2.journal =
      c.2.journal ++ (notesBefore rs k.earlier ++ xs.flatMap (·.before)) := by
  rw [lastCall, Relay.enter, World.journal_log, Step.journal_inward, journal_handOn,
    journal_inward, List.append_assoc]

/-- Nothing leaves the step of a middleware that ends the invocation. -/
theorem reach_ending (hs : s.HoldsRelays rs k.earlier)
    (hk : (s.step k).members.order =
      xs.map Relay.toMiddleware ++ .ending id before answer :: ys)
    (handler : Handler Payload Payload) (ks : List StepId) (c : Call Payload) :
    s.reach handler (k.earlier ++ k :: ks) c = [] := by
  rw [reach_append, reach_relays hs, List.flatMap_singleton, reach, Step.arrivals, hk,
    arrivals_ending, List.map_nil, List.flatMap_nil]

/-- Behind that middleware no handler, no step and no middleware is called. -/
theorem nothing_behind_ending (hs : s.HoldsRelays rs k.earlier)
    (hk : (s.step k).members.order =
      xs.map Relay.toMiddleware ++ .ending id before answer :: ys)
    (handler : Handler Payload Payload) (c : Call Payload) :
    s.calls handler c = [] ∧
      (∀ j ∈ k.later, s.entries handler j c = [] ∧ ∀ n, s.visits handler j n c = []) ∧
      ∀ n, xs.length < n → s.visits handler k n c = [] := by
  refine ⟨?_, ?_, ?_⟩
  · rw [calls, k.all_eq, reach_ending hs hk]
  · intro j hj
    obtain ⟨between, hbetween⟩ := StepId.earlier_of_mem_later hj
    have hentries : s.entries handler j c = [] := by
      rw [entries, hbetween, reach_ending hs hk]
    refine ⟨hentries, fun n => ?_⟩
    rw [visits, hentries, List.flatMap_nil]
  · intro n hn
    have htake : (s.step k).members.order.take n = xs.map Relay.toMiddleware ++
        .ending id before answer :: ys.take (n - xs.length - 1) := by
      obtain ⟨d, rfl⟩ : ∃ d, n = xs.length + (d + 1) := ⟨n - xs.length - 1, by omega⟩
      have hd : xs.length + (d + 1) - xs.length - 1 = d := by omega
      rw [hk, hd, ← List.length_map (f := Relay.toMiddleware), List.take_length_add_append,
        List.take_succ_cons]
    rw [visits, htake]
    simp only [arrivals_ending, List.flatMap_eq_nil_iff, implies_true]

/-- The middleware itself is called once. -/
theorem visits_ending (hs : s.HoldsRelays rs k.earlier)
    (hk : (s.step k).members.order =
      xs.map Relay.toMiddleware ++ .ending id before answer :: ys)
    (handler : Handler Payload Payload) (c : Call Payload) :
    s.visits handler k xs.length c = [s.lastCall rs k xs c] := by
  have htake : (s.step k).members.order.take xs.length = xs.map Relay.toMiddleware := by
    rw [hk, List.take_left' (List.length_map _)]
  rw [visits, htake, entries, reach_relays hs, List.flatMap_singleton, Relay.arrivals_relays]
  rfl

/-- Its answer goes back through the relays before it. -/
theorem carries_lastCall (hs : s.HoldsRelays rs k.earlier)
    (hk : (s.step k).members.order =
      xs.map Relay.toMiddleware ++ .ending id before answer :: ys)
    (handler : Handler Payload Payload) (v : Payload) (w : World) :
    let c := s.lastCall rs k xs (v, w)
    Carries (Relay.notesAfter xs ++ notesAfter rs k.earlier)
      (handBack rs k.earlier ∘ k.exit ∘ Relay.leave xs) (answer c.1, c.2.log before)
      (s.invoke handler v w) := by
  have hchain := @carries_ending _ _ _ id before answer (k.outward (s.around handler k.later))
    xs ys ((s.step k).inward (s.handOn rs k.earlier (s.inward (v, w))))
  rw [← hk] at hchain
  have hstep := hchain.trans ((s.step k).carries_dismiss _)
  rw [← Step.wrap_eq, List.append_nil] at hstep
  have hstack := hstep.trans (carries_around hs (s.around handler (k :: k.later)) _)
  rw [← around_append, ← k.all_eq] at hstack
  have hinvoke := hstack.trans (s.carries_dismiss _)
  rw [← invoke_eq, List.append_nil] at hinvoke
  exact hinvoke

/-! ## The order of the log -/

/-- **Onion order.**  In a stack of relays around a handler that logs `ts`, the handler is
called once.  If it succeeds, so does the invocation, which logs the way in, `ts` and the
way back; if it fails, the invocation fails with the same error and logs no way back.

If instead a middleware behind relays ends the invocation, nothing behind it is called.
It is called once itself; if it answers with a success, the invocation succeeds and logs
the way in as far as there and the way back from there; if it fails, the invocation fails
with the same error and logs no way back. -/
theorem onion_order (s : Stack) (rs : (k : StepId) → List (Relay k.Input k.Output))
    (handler : Handler Payload Payload) (v : Payload) (w : World) :
    (∀ ts, s.HoldsRelays rs StepId.all →
      (∀ x u, (handler x u).2.journal = u.journal ++ ts) →
      ∃ c, s.calls handler (v, w) = [c] ∧
        (∀ x, (handler c.1 c.2).1 = .ok x →
          (∃ y, (s.invoke handler v w).1 = .ok y) ∧
          (s.invoke handler v w).2.journal = w.journal ++
            (notesBefore rs StepId.all ++ ts ++ notesAfter rs StepId.all)) ∧
        (∀ e, (handler c.1 c.2).1 = .error e →
          (s.invoke handler v w).1 = .error e ∧
          (s.invoke handler v w).2.journal = w.journal ++
            (notesBefore rs StepId.all ++ ts))) ∧
    (∀ (k : StepId) (xs : List (Relay k.Input k.Output)) (id : String) (before : List Note)
        (answer : k.Input → Except Fault k.Output) (ys : List (Middleware k.Input k.Output)),
      s.HoldsRelays rs k.earlier →
      (s.step k).members.order =
        xs.map Relay.toMiddleware ++ .ending id before answer :: ys →
      s.calls handler (v, w) = [] ∧
      (∀ j ∈ k.later, s.entries handler j (v, w) = [] ∧ ∀ n, s.visits handler j n (v, w) = []) ∧
      (∀ n, xs.length < n → s.visits handler k n (v, w) = []) ∧
      ∃ c, s.visits handler k xs.length (v, w) = [c] ∧
        (∀ o, answer c.1 = .ok o →
          (∃ y, (s.invoke handler v w).1 = .ok y) ∧
          (s.invoke handler v w).2.journal = w.journal ++
            (notesBefore rs k.earlier ++ xs.flatMap (·.before) ++ before ++
              (Relay.notesAfter xs ++ notesAfter rs k.earlier))) ∧
        (∀ e, answer c.1 = .error e →
          (s.invoke handler v w).1 = .error e ∧
          (s.invoke handler v w).2.journal = w.journal ++
            (notesBefore rs k.earlier ++ xs.flatMap (·.before) ++ before))) := by
  constructor
  · intro ts hs hts
    obtain ⟨hcalls, hcarries⟩ := carries_invoke hs handler v w
    have hbefore : (s.handOn rs StepId.all (s.inward (v, w))).2.journal =
        w.journal ++ notesBefore rs StepId.all := by
      rw [journal_handOn, journal_inward]
    refine ⟨_, hcalls, ?_, ?_⟩
    · intro x hx
      obtain ⟨hok, hlog⟩ := hcarries.of_ok hx
      refine ⟨⟨_, hok⟩, ?_⟩
      rw [hlog, hts, hbefore]
      simp only [List.append_assoc]
    · intro e he
      obtain ⟨herror, hlog⟩ := hcarries.of_error he
      refine ⟨herror, ?_⟩
      rw [hlog, hts, hbefore, List.append_assoc]
  · intro k xs id before answer ys hs hk
    obtain ⟨hcalls, hentries, hvisits⟩ := nothing_behind_ending hs hk handler (v, w)
    have hcarries := carries_lastCall hs hk handler v w
    have hbefore : (s.lastCall rs k xs (v, w)).2.journal =
        w.journal ++ (notesBefore rs k.earlier ++ xs.flatMap (·.before)) :=
      journal_lastCall (v, w)
    refine ⟨hcalls, hentries, hvisits, _, visits_ending hs hk handler (v, w), ?_, ?_⟩
    · intro o ho
      obtain ⟨hok, hlog⟩ := hcarries.of_ok ho
      refine ⟨⟨_, hok⟩, ?_⟩
      rw [hlog, World.journal_log, hbefore]
      simp only [List.append_assoc]
    · intro e he
      obtain ⟨herror, hlog⟩ := hcarries.of_error he
      refine ⟨herror, ?_⟩
      rw [hlog, World.journal_log, hbefore, List.append_assoc]

end Stack

end

namespace Stack

/-- A stack with relays in three steps, and the same stack with a middleware in the build
step that answers on its own. -/
theorem journal_marking :
    let rs : (k : StepId) → List (Relay k.Input k.Output) := fun k => match k with
      | .init => [.marking "i" .init, .marking "j" .init]
      | .build => [.marking "b" .build]
      | .deserialize => [.marking "d" .deserialize]
      | _ => []
    let s := ofRelays { id := "stack" } (.counting 0) rs
    let cut := s.withStep .build { s.build with
      members := .ofList [.ending "x" [⟨"x", "before", .null⟩] fun _ => .ok ⟨Value.unit⟩,
        (Relay.marking "b" .build).toMiddleware] }
    let handler : Handler Payload Payload := fun x w => (.ok x, w.log [⟨"handler", "call", .null⟩])
    s.HoldsRelays rs StepId.all ∧ cut.HoldsRelays rs (StepId.earlier .build) ∧
    (s.invoke handler Value.unit {}).2.journal =
      [⟨"i", "before", .null⟩, ⟨"j", "before", .null⟩, ⟨"b", "before", .null⟩,
        ⟨"d", "before", .null⟩, ⟨"handler", "call", .null⟩, ⟨"d", "after", .null⟩,
        ⟨"b", "after", .null⟩, ⟨"j", "after", .null⟩, ⟨"i", "after", .null⟩] ∧
    (cut.invoke handler Value.unit {}).2.journal =
      [⟨"i", "before", .null⟩, ⟨"j", "before", .null⟩, ⟨"x", "before", .null⟩,
        ⟨"j", "after", .null⟩, ⟨"i", "after", .null⟩] := by
  intro rs s cut handler
  have hs : s.HoldsRelays rs StepId.all := holdsRelays_ofRelays _ _ rs _
  have hcut : cut.HoldsRelays rs (StepId.earlier .build) := by
    intro k hk
    rw [step_withStep_of_ne _ _ (StepId.ne_of_mem_earlier hk)]
    exact holdsRelays_ofRelays _ _ rs _ k hk
  have hmembers : (cut.step .build).members.order = _ := Registry.order_ofList _
  obtain ⟨c, hc, hok, _⟩ := (onion_order s rs handler Value.unit {}).1 _ hs fun _ _ => rfl
  obtain ⟨_, _, _, c', _, hok', _⟩ :=
    (onion_order cut rs handler Value.unit {}).2 .build [] "x" _ _ _ hcut hmembers
  exact ⟨hs, hcut, (hok _ rfl).2, (hok' _ rfl).2⟩

end Stack

end OpStack
