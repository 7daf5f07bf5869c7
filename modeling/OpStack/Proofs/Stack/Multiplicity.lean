import OpStack.Proofs.Gauge
import OpStack.Value.Source

/-!
# OpStack.Proofs.Stack.Multiplicity

How often the parts of a stack are called.  A middleware that calls the next handler `n`
times, whatever comes of the calls, is entered and multiplies: behind it every call has
become `n` calls.  So a part of a stack is called as often as the product of the numbers
in front of it says, in execution order over all steps.

`calls_multiply` says this for every middleware, every step, the source of requests and
the handler; nothing in it depends on which calls fail.
-/

namespace OpStack

section

variable {I O α β : Type}

/-- Parts of the same length make up a product. -/
theorem length_flatMap_eq_mul {parts : α → List β} {n : Nat}
    (hparts : ∀ x, (parts x).length = n) (xs : List α) :
    (xs.flatMap parts).length = xs.length * n := by
  induction xs with
  | nil => simp
  | cons x xs ih =>
      rw [List.flatMap_cons, List.length_append, hparts, ih, List.length_cons, Nat.succ_mul,
        Nat.add_comm]

variable [Payloads]

/-! ## Middleware that repeat their calls -/

/-- Whenever it is entered, the middleware calls the next handler `n` times. -/
def Middleware.Repeats (m : Middleware I O) (n : Nat) : Prop :=
  ∀ (input : I) (next : Handler I O) (w : World), ((m.body input).calls next w).length = n

/-- Calls the next handler so many times and ends with its last answer, at first `answer`. -/
def Behaviour.again (input : I) : Nat → Except Fault O → Behaviour I O O
  | 0, answer => .finish answer
  | n + 1, _ => .call input (again input n)

/-- A middleware that logs its name, then calls the next handler `n` times with its own input and
answers with the last answer, or with `answer` if there is none. -/
def Middleware.again (id : String) (answer : Except Fault O) (n : Nat) : Middleware I O where
  id
  body input := .act (.note ⟨id, "entered", .null⟩) fun _ => .again input n answer

theorem Middleware.repeats_again (id : String) (answer : Except Fault O) (n : Nat) :
    (again id answer n : Middleware I O).Repeats n := by
  have hcalls : ∀ (input : I) (next : Handler I O) n answer w,
      ((Behaviour.again input n answer).calls next w).length = n := by
    intro input next n
    induction n with
    | zero => exact fun _ _ => rfl
    | succ n ih =>
        intro answer w
        rw [Behaviour.again, Behaviour.calls, List.length_cons, ih]
  exact fun input next w => hcalls input next n answer _

theorem Middleware.moves_again (id name : String) (answer : Except Fault O) (n : Nat) :
    (again id answer n : Middleware I O).Moves (.noted name) (if id = name then 1 else 0) := by
  have hweigh : ∀ (input : I) (next : Handler I O) n answer w,
      (Behaviour.again input n answer).weigh (Gauge.noted name).weight next w = 0 := by
    intro input next n
    induction n with
    | zero => exact fun _ _ => rfl
    | succ n ih => exact fun _ _ => ih _ _
  intro input next w
  rw [again, Behaviour.weigh, hweigh]
  rfl

/-! ## Products -/

/-- Behind a list of middleware every call has become as many calls as the product of
their numbers. -/
theorem length_arrivals {ms : List (Middleware I O)} {ns : List Nat}
    (hms : List.Forall₂ Middleware.Repeats ms ns) (handler : Handler I O) (c : Call I) :
    (arrivals handler ms c).length = ns.prod := by
  induction hms generalizing c with
  | nil => rfl
  | cons hm _ ih => rw [arrivals, length_flatMap_eq_mul ih, hm, List.prod_cons]

namespace Stack

/-- The middleware of every step repeat their calls as often as the list for the step
says. -/
def Repeats (s : Stack) (ns : StepId → List Nat) : Prop :=
  ∀ k, List.Forall₂ Middleware.Repeats (s.step k).members.order (ns k)

/-- A new stack whose middleware repeat their calls so many times, under the names. -/
def ofNumbers (options : StackOptions) (source : RequestSource) (name : StepId → Nat → String)
    (ns : StepId → List Nat) : Stack :=
  holding options source fun k => (ns k).mapIdx fun i n =>
    .again (name k i) (.error (.raised "NotCalled" "no call of the next handler")) n

/-- Every choice of numbers is that of a stack. -/
theorem repeats_ofNumbers (options : StackOptions) (source : RequestSource)
    (name : StepId → Nat → String) (ns : StepId → List Nat) :
    (ofNumbers options source name ns).Repeats ns := by
  have hlist : ∀ {I O : Type} (id : Nat → String) (answer : Except Fault O) (ns : List Nat),
      List.Forall₂ Middleware.Repeats
        (ns.mapIdx fun i n => (.again (id i) answer n : Middleware I O)) ns := by
    intro I O id answer ns
    induction ns generalizing id with
    | nil => exact .nil
    | cons n ns ih =>
        rw [List.mapIdx_cons]
        exact .cons (Middleware.repeats_again _ _ n) (ih fun i => id (i + 1))
  intro k
  rw [ofNumbers, order_holding]
  exact hlist _ _ _

/-- A middleware whose name is its own can be told by its notes. -/
theorem marks_ofNumbers (options : StackOptions) (source : RequestSource)
    {name : StepId → Nat → String} {ns : StepId → List Nat} {k : StepId} {j : Nat}
    (hname : ∀ i l, name i l = name k j ↔ i = k ∧ l = j) (hj : j < (ns k).length) :
    (Gauge.noted (name k j)).Marks (ofNumbers options source name ns) k j where
  lt_length := by rwa [ofNumbers, order_holding, List.length_mapIdx]
  moves i l hl := by
    simp only [ofNumbers, order_holding, List.getElem_mapIdx, ← hname i l]
    exact Middleware.moves_again _ _ _ _

variable {s : Stack} {ns : StepId → List Nat}

/-- Behind the steps `ks` every call has become as many calls as the product of all
numbers in them. -/
theorem length_reach (hs : s.Repeats ns) (handler : Handler Payload Payload) (ks : List StepId)
    (c : Call Payload) : (s.reach handler ks c).length = (ks.flatMap ns).prod := by
  induction ks generalizing c with
  | nil => rfl
  | cons k ks ih =>
      rw [reach, length_flatMap_eq_mul ih, Step.arrivals, List.length_map,
        length_arrivals (hs k), List.flatMap_cons, List.prod_append]

/-- Each place of a step is reached as often as all middleware before it multiply. -/
theorem length_visits (hs : s.Repeats ns) (handler : Handler Payload Payload) (k : StepId)
    (j : Nat) (c : Call Payload) :
    (s.visits handler k j c).length = (k.earlier.flatMap ns ++ (ns k).take j).prod := by
  have hfront := List.forall₂_take j (hs k)
  rw [visits, length_flatMap_eq_mul fun c => length_arrivals hfront _ _, entries,
    length_reach hs, List.prod_append]

/-! ## The whole stack -/

/-- **Call counts multiply.**  If the middleware of a stack repeat their calls `ns` times,
then in every invocation

1. the middleware at the place `j` of a step is called as often as the product of the
   numbers of all middleware before it;
2. a step is entered as often as the product of the numbers in all earlier steps;
3. the handler is called as often as the product of all numbers, so exactly once if all
   are one and never if one is zero;
4. the source of requests makes as many requests as the product of the numbers in the
   initialize step.

The state tells the same: if a middleware logs a note under a name of its own whenever it is
entered, the log has so many more of these notes, the trace has so many more starts of a step,
and the source has made so many more requests, not counting those that the handler itself, `d` in
each call, may add. -/
theorem calls_multiply (s : Stack) (ns : StepId → List Nat) (hs : s.Repeats ns)
    (handler : Handler Payload Payload) (v : Payload) (w : World) :
    (∀ k j, (s.visits handler k j (v, w)).length =
      (k.earlier.flatMap ns ++ (ns k).take j).prod) ∧
    (∀ k, (s.entries handler k (v, w)).length = (k.earlier.flatMap ns).prod) ∧
    (s.calls handler (v, w)).length = (StepId.all.flatMap ns).prod ∧
    ((∀ n ∈ StepId.all.flatMap ns, n = 1) → ∃ c, s.calls handler (v, w) = [c]) ∧
    (0 ∈ StepId.all.flatMap ns → s.calls handler (v, w) = []) ∧
    (∀ name k j, (Gauge.noted name).Marks s k j → (Gauge.noted name).Adds handler (fun _ => 0) →
      (Gauge.noted name).read (s.invoke handler v w).2 = (Gauge.noted name).read w +
        (k.earlier.flatMap ns ++ (ns k).take j).prod) ∧
    (∀ key d, (Gauge.drawn key).Adds handler (fun _ => d) →
      (s.invoke handler v w).2.drawn key = w.drawn key +
        ((if key = s.serialize.source.key then (ns .init).prod else 0) +
          d * (StepId.all.flatMap ns).prod)) ∧
    (∀ k d, (Gauge.starts k).Adds handler (fun _ => d) →
      (Gauge.starts k).read (s.invoke handler v w).2 = (Gauge.starts k).read w +
        ((k.earlier.flatMap ns).prod + d * (StepId.all.flatMap ns).prod)) := by
  have hentries : ∀ k, (s.entries handler k (v, w)).length = (k.earlier.flatMap ns).prod :=
    fun k => length_reach hs _ _ _
  have hcalls : (s.calls handler (v, w)).length = (StepId.all.flatMap ns).prod :=
    length_reach hs _ _ _
  have hconst : ∀ d, ((s.calls handler (v, w)).map fun _ => d).sum =
      d * (StepId.all.flatMap ns).prod := by
    intro d
    rw [List.map_const', List.sum_replicate_nat, hcalls, Nat.mul_comm]
  refine ⟨fun k j => length_visits hs handler k j _, hentries, hcalls, ?_, ?_, ?_, ?_, ?_⟩
  · intro hone
    rw [List.prod_eq_one hone] at hcalls
    exact List.length_eq_one_iff.mp hcalls
  · intro hzero
    rw [List.prod_eq_zero_iff_exists_zero_nat.mpr ⟨0, hzero, rfl⟩] at hcalls
    exact List.eq_nil_of_length_eq_zero hcalls
  · intro name k j hmarks hd
    rw [Gauge.read_invoke_visits hmarks (fun i => Gauge.noted_inward name (s.step i)) hd,
      length_visits hs]
  · intro key d hd
    have hinit : (StepId.earlier .serialize).flatMap ns = ns .init := List.append_nil _
    rw [Gauge.drawn_invoke key hd, hentries, hinit, hconst]
    split <;> simp
  · intro k d hd
    rw [Gauge.starts_invoke k hd, hentries, hconst]

end Stack

end

namespace Stack

/-- A middleware in the initialize step calls twice, one in the build step three times: a
handler that always fails, and makes a request of its own each time, is called six times. -/
theorem invoke_twice_thrice :
    let ns : StepId → List Nat := fun | .init => [2] | .build => [1, 3] | _ => []
    let name : StepId → Nat → String := fun k i => if k = .build ∧ i = 1 then "thrice" else "other"
    let s := ofNumbers { id := "stack" } (.counting 0) name ns
    let handler : Handler Payload Payload := fun _ w =>
      (.error (.raised "Offline" "no answer"), ((RequestSource.counting 1).draw w).2)
    s.Repeats ns ∧ (Gauge.noted "thrice").Marks s .build 1 ∧
    (s.calls handler (Value.unit, {})).length = 6 ∧
    (s.entries handler .build (Value.unit, {})).length = 2 ∧
    (s.visits handler .build 1 (Value.unit, {})).length = 2 ∧
    (Gauge.noted "thrice").read (s.invoke handler Value.unit {}).2 = 2 ∧
    (s.invoke handler Value.unit {}).2.drawn 0 = 2 ∧
    (s.invoke handler Value.unit {}).2.drawn 1 = 6 := by
  intro ns name s handler
  have hs : s.Repeats ns := repeats_ofNumbers _ _ name ns
  have hname : ∀ i l, name i l = name .build 1 ↔ i = .build ∧ l = 1 := by
    intro i l
    by_cases h : i = .build ∧ l = 1 <;> simp [name, h]
  have hmarks : (Gauge.noted "thrice").Marks s .build 1 :=
    marks_ofNumbers _ _ hname Nat.one_lt_two
  obtain ⟨hvisits, hentries, hcalls, _, _, hnoted, hdrawn, _⟩ :=
    calls_multiply s ns hs handler Value.unit {}
  exact ⟨hs, hmarks, hcalls, hentries .build, hvisits .build 1,
    hnoted "thrice" .build 1 hmarks fun _ => rfl, hdrawn 0 0 fun _ => rfl,
    hdrawn 1 1 fun _ => rfl⟩

end Stack

end OpStack
