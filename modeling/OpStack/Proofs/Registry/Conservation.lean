import Mathlib.Algebra.Order.Group.Multiset
import OpStack.Proofs.Registry.Cells

/-!
# OpStack.Proofs.Registry.Conservation

Where the entries of a registry come from and where they go.  An operation moves entries in
three ways, counted as multisets:

* `Op.accepted` — the entry that it was given comes in, unless it fails;
* `Op.returned` — an entry goes back to the caller;
* `Op.dropped` — all entries are gone, when the registry is cleared.

`add` and `insert` do the first, `swap` the first and the second, `remove` the second, and
`clear` the third.  `balance_perform` says that each operation balances: what was there and
what came in is what went out and what is there.  `entries_conserved` says the same of
whole runs, and that nothing else than what was accepted ever shows up.
-/

namespace OpStack

open Registry

variable {α : Type}

namespace Registry

/-! ## What an operation moves -/

/-- The entry that the operation brings, if it brings one. -/
def Op.given? : Op α → Option α
  | add entry _ | insert entry _ _ | swap _ entry => some entry
  | remove _ | clear | get _ | contains _ | size | ids | order => none

/-- The entries that are gone if the list is cleared. -/
def Op.cleared (xs : List α) : Op α → List α
  | clear => xs
  | add .. | insert .. | swap .. | remove _ | get _ | contains _ | size | ids | order => []

variable [Identified α]

/-- What the registry takes over: the entry that it is given, unless the operation fails. -/
def Op.accepted (r : Registry α) (op : Op α) : Multiset α :=
  match (op.perform r).reply with
  | .failed _ => 0
  | _ => op.given?.toList

/-- What the registry hands over to the caller. -/
def Op.returned (r : Registry α) (op : Op α) : Multiset α :=
  match (op.perform r).reply with
  | .entry e => {e}
  | _ => 0

/-- What is gone with the places. -/
def Op.dropped (r : Registry α) (op : Op α) : Multiset α := op.cleared r.order

/-- All that the operations of a run move in one of these ways. -/
def tally (moved : Registry α → Op α → Multiset α) (r : Registry α) : List (Op α) → Multiset α
  | [] => 0
  | op :: ops => moved r op + tally moved (op.perform r).registry ops

/-! ## One operation -/

/-- A change that is possible adds the entry that it is given, and takes away the one that it
takes out and those that are cleared. -/
theorem Op.effect_perm {xs : List α} (hxs : Roster.Proper xs) {op : Op α} (hop : op.Alters)
    (h : op.Possible xs) :
    (op.given?.toList ++ xs).Perm ((op.taken? xs).toList ++ op.cleared xs ++ op.effect xs) := by
  cases op with
  | add entry position =>
      cases position with
      | before =>
          rw [effect_add_before]
          exact .refl _
      | after =>
          rw [effect_add_after]
          exact (List.perm_append_singleton entry xs).symm
  | insert entry anchor position =>
      obtain ⟨ys, x, zs, rfl, hx, -, -, heffect⟩ :=
        Roster.effect_at (.insert entry anchor position) rfl hxs h.2
      rw [heffect]
      cases position with
      | before => simpa [given?, taken?, cleared, cell, hx] using List.perm_middle.symm
      | after =>
          have hmiddle : (entry :: ((ys ++ [x]) ++ zs)).Perm (ys ++ [x] ++ entry :: zs) :=
            List.perm_middle.symm
          simpa [given?, taken?, cleared, cell, hx] using hmiddle
  | swap id entry =>
      obtain ⟨ys, old, zs, rfl, rfl, hys, -, heffect⟩ :=
        Roster.effect_at (.swap id entry) rfl hxs h.1
      have hfound := Roster.find?_middle zs hys
      have houter : (entry :: (ys ++ old :: zs)).Perm (entry :: old :: (ys ++ zs)) :=
        List.perm_middle.cons entry
      have hinner : (old :: entry :: (ys ++ zs)).Perm (old :: (ys ++ entry :: zs)) :=
        List.perm_middle.symm.cons old
      rw [heffect]
      simpa [given?, taken?, cleared, cell, hfound] using
        houter.trans ((List.Perm.swap old entry _).trans hinner)
  | remove id =>
      obtain ⟨ys, old, zs, rfl, rfl, hys, -, heffect⟩ :=
        Roster.effect_at (.remove id) rfl hxs h
      have hfound := Roster.find?_middle zs hys
      rw [heffect]
      simp [given?, taken?, cleared, cell, hfound]
  | clear => simp [given?, taken?, cleared, effect_clear]
  | get | contains | size | ids | order => exact hop.elim

/-- What fails moves nothing. -/
theorem moved_of_failed {r : Registry α} {op : Op α} {e : Error}
    (h : (op.perform r).reply = .failed e) :
    op.accepted r = 0 ∧ op.returned r = 0 ∧ op.dropped r = 0 := by
  refine ⟨by rw [Op.accepted, h], by rw [Op.returned, h], ?_⟩
  cases op with
  | clear => cases h
  | add | insert | swap | remove | get | contains | size | ids | order => rfl

/-- What is accepted was given to an operation that does not fail. -/
theorem of_mem_accepted {r : Registry α} {op : Op α} {x : α} (h : x ∈ op.accepted r) :
    op.given? = some x ∧ op.Succeeds r := by
  have hsucceeds : op.Succeeds r := by
    intro e he
    rw [(moved_of_failed he).1] at h
    exact absurd h (Multiset.notMem_zero x)
  have hgiven : op.accepted r = op.given?.toList := by
    rw [Op.accepted]
    cases hreply : (op.perform r).reply with
    | failed e => exact absurd hreply (hsucceeds e)
    | done | entry | found | flag | size | ids | order => rfl
  rw [hgiven, Multiset.mem_coe, Option.mem_toList] at h
  exact ⟨h, hsucceeds⟩

/-- Each operation balances. -/
theorem balance_perform {r : Registry α} (hr : Sound r) (op : Op α) :
    op.accepted r + r.order =
      op.returned r + op.dropped r + (op.perform r).registry.order := by
  obtain ⟨xs, rfl, hproper⟩ := hr.exists_ofList
  by_cases hop : op.Alters
  · by_cases hpossible : op.Possible xs
    · obtain ⟨hreply, hregistry⟩ := hpossible.perform hop hproper
      have hperm := Op.effect_perm hproper hop hpossible
      have haccepted : op.accepted (ofList xs) = op.given?.toList := by
        rw [Op.accepted, hreply]
        cases op.taken? xs <;> rfl
      have hreturned : op.returned (ofList xs) = (op.taken? xs).toList := by
        rw [Op.returned, hreply]
        cases op.taken? xs <;> rfl
      rw [haccepted, hreturned, Op.dropped, hregistry, order_ofList, order_ofList,
        Multiset.coe_add, Multiset.coe_add, Multiset.coe_add]
      exact Multiset.coe_eq_coe.mpr hperm
    · obtain ⟨e, he⟩ := Roster.perform_impossible hpossible
      have hfailed : (op.perform (ofList xs)).reply = .failed e := by
        rw [(agrees_perform xs op).reply, he]
      obtain ⟨haccepted, hreturned, hdropped⟩ := moved_of_failed hfailed
      rw [haccepted, hreturned, hdropped, registry_of_failed hfailed, add_zero]
  · cases op with
    | add | insert | swap | remove | clear => exact absurd trivial hop
    | get | contains | size | ids | order =>
        show (0 : Multiset α) + _ = 0 + 0 + _
        rw [add_zero]
        rfl

/-! ## Runs -/

/-- A run balances. -/
theorem balance_run {r : Registry α} (hr : Sound r) (ops : List (Op α)) :
    tally Op.accepted r ops + r.order =
      tally Op.returned r ops + tally Op.dropped r ops + (run r ops).order := by
  induction ops generalizing r with
  | nil => rfl
  | cons op ops ih =>
      let r' := (op.perform r).registry
      have hrun : run r (op :: ops) = run r' ops := rfl
      calc tally Op.accepted r (op :: ops) + r.order
          = tally Op.accepted r' ops + (op.accepted r + r.order) := by
            rw [tally, add_comm (op.accepted r), add_assoc]
        _ = op.returned r + op.dropped r + (tally Op.accepted r' ops + r'.order) := by
            rw [balance_perform hr, add_left_comm]
        _ = op.returned r + op.dropped r +
              (tally Op.returned r' ops + tally Op.dropped r' ops + (run r' ops).order) := by
            rw [ih (hr.perform op)]
        _ = tally Op.returned r (op :: ops) + tally Op.dropped r (op :: ops) +
              (run r (op :: ops)).order := by
            rw [hrun, tally, tally, ← add_assoc, add_add_add_comm (op.returned r)]

/-- What is moved in a run is moved by one of its operations. -/
theorem mem_tally {moved : Registry α → Op α → Multiset α} {r : Registry α} {ops : List (Op α)}
    {x : α} (h : x ∈ tally moved r ops) :
    ∃ before op after, ops = before ++ op :: after ∧ x ∈ moved (run r before) op := by
  induction ops generalizing r with
  | nil => exact absurd h (Multiset.notMem_zero x)
  | cons op ops ih =>
      rcases Multiset.mem_add.mp h with hone | hrest
      · exact ⟨[], op, ops, rfl, hone⟩
      · obtain ⟨before, op', after, rfl, hmoved⟩ := ih hrest
        exact ⟨op :: before, op', after, rfl, hmoved⟩

/-- **Entries are conserved.**  In a run from the empty registry, counted as multisets,

1. the entries that were accepted are those that were returned, those that were dropped and
   those that the registry holds;
2. each of the latter was given to an operation that did not fail;
3. an operation that fails moves no entry and leaves the registry as it was. -/
theorem entries_conserved (ops : List (Op α)) :
    tally Op.accepted ∅ ops =
      tally Op.returned ∅ ops + tally Op.dropped ∅ ops + (run ∅ ops).order ∧
    (∀ x ∈ tally Op.returned ∅ ops + tally Op.dropped ∅ ops + ((run ∅ ops).order : Multiset α),
      ∃ before op after, ops = before ++ op :: after ∧ op.given? = some x ∧
        op.Succeeds (run ∅ before)) ∧
    ∀ op : Op α, (∃ e, (op.perform (run ∅ ops)).reply = .failed e) →
      (op.accepted (run ∅ ops) = 0 ∧ op.returned (run ∅ ops) = 0 ∧
        op.dropped (run ∅ ops) = 0) ∧
      (op.perform (run ∅ ops)).registry = run ∅ ops := by
  have hbalance := balance_run (sound_empty (α := α)) ops
  have hempty : ((∅ : Registry α).order : Multiset α) = 0 := rfl
  rw [hempty, add_zero] at hbalance
  refine ⟨hbalance, fun x hx => ?_, fun op ⟨e, he⟩ => ⟨moved_of_failed he, registry_of_failed he⟩⟩
  rw [← hbalance] at hx
  obtain ⟨before, op, after, hops, haccepted⟩ := mem_tally hx
  exact ⟨before, op, after, hops, of_mem_accepted haccepted⟩

end Registry

end OpStack
