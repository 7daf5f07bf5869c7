import Mathlib.Data.List.Induction
import OpStack.Registry.Shelf

/-!
# OpStack.Proofs.Registry.Shares

Registries side by side, one at a time.

1. Each registry has its `share` of a run, the operations that are addressed to it.  From any
   moment on it is what its share makes of it (`registries_run`), and what is told of its share
   is what a registry by itself would tell (`heard_eq`).
2. A registry is made once, empty or as a copy of the current one (`Made`); every registry of a
   run was (`exists_made`).
3. Snapshots are only ever added (`snapshots_prefix`), each with the entries of the registry
   that is current (`snapshots_run_iff`).
-/

namespace OpStack.Registry

variable {α : Type}

namespace Shelf

/-! ## The current registry -/

theorem registry_eq {s : Shelf α} {r : Registry α} (h : s.registries[s.current]? = some r) :
    s.registry = r := by
  rw [registry, List.getD_eq_getElem?_getD, h, Option.getD_some]

/-- One of the registries is current. -/
def Placed (s : Shelf α) : Prop := s.current < s.registries.length

theorem placed_start : (start : Shelf α).Placed := Nat.one_pos

/-- The registry at hand is there. -/
theorem Placed.registry {s : Shelf α} (h : s.Placed) :
    s.registries[s.current]? = some s.registry := by
  rw [registry_eq (List.getElem?_eq_getElem h), List.getElem?_eq_getElem h]

end Shelf

variable [Identified α]

/-- What operations on a registry by itself tell, one after the other: the caller and the
observers. -/
def tellings (r : Registry α) : List (Op α) → List (Reply α × List Event)
  | [] => []
  | op :: ops =>
    ((op.perform r).reply, (op.perform r).events) :: (op.perform r).registry.tellings ops

namespace Shelf

/-! ## Runs -/

theorem run_cons (s : Shelf α) (op : Op α) (ops : List (Op α)) :
    s.run (op :: ops) = (s.perform op).2.1.run ops := rfl

theorem run_append (s : Shelf α) (ops others : List (Op α)) :
    s.run (ops ++ others) = (s.run ops).run others :=
  List.foldl_append

/-- One operation more at the end. -/
theorem run_concat (s : Shelf α) (ops : List (Op α)) (op : Op α) :
    s.run (ops ++ [op]) = ((s.run ops).perform op).2.1 := by
  rw [run_append]
  rfl

def Op.makes : Op α → Bool
  | .clone | .new => true
  | _ => false

/-- Whoever makes a registry makes one. -/
theorem length_perform (s : Shelf α) (op : Op α) :
    (s.perform op).2.1.registries.length = s.registries.length + if op.makes then 1 else 0 := by
  cases op <;> simp [perform, Op.makes]

/-- No operation turns to a registry that is not there. -/
theorem Placed.perform {s : Shelf α} (h : s.Placed) (op : Op α) : (s.perform op).2.1.Placed := by
  unfold Placed at h ⊢
  rw [length_perform]
  cases op with
  | use i => exact Nat.mod_lt i (Nat.zero_lt_of_lt h)
  | _ => exact Nat.lt_add_right _ h

theorem Placed.run {s : Shelf α} (h : s.Placed) (ops : List (Op α)) : (s.run ops).Placed := by
  induction ops generalizing s with
  | nil => exact h
  | cons op ops ih => exact ih (h.perform op)

/-! ## One registry in a run -/

/-- The operation on registry `i` that is meant, if it is this one that is current. -/
def asks? (s : Shelf α) (i : Nat) : Op α → Option (Registry.Op α)
  | .on op => if s.current = i then some op else none
  | _ => none

/-- The operations of a run that are addressed to registry `i`. -/
def share (s : Shelf α) (i : Nat) : List (Op α) → List (Registry.Op α)
  | [] => []
  | op :: ops => (s.asks? i op).toList ++ (s.perform op).2.1.share i ops

/-- What is told of an operation, if it is addressed to registry `i`. -/
def hears? (s : Shelf α) (i : Nat) (op : Op α) : Option (Reply α × List Event) :=
  (s.asks? i op).map fun _ => ((s.perform op).1, (s.perform op).2.2)

/-- What is told of the operations of a run that are addressed to registry `i`. -/
def heard (s : Shelf α) (i : Nat) : List (Op α) → List (Reply α × List Event)
  | [] => []
  | op :: ops => (s.hears? i op).toList ++ (s.perform op).2.1.heard i ops

/-- An operation does to a registry what the registry is asked, and nothing else. -/
theorem registries_perform {s : Shelf α} {i : Nat} {r : Registry α}
    (h : s.registries[i]? = some r) (op : Op α) :
    (s.perform op).2.1.registries[i]? =
      some ((s.asks? i op).elim r fun asked => (asked.perform r).registry) := by
  obtain ⟨hi, -⟩ := List.getElem?_eq_some_iff.mp h
  cases op with
  | on op =>
      by_cases hcurrent : s.current = i
      · subst hcurrent
        simp [perform, asks?, registry_eq h, hi]
      · simp [perform, asks?, hcurrent, h]
  | clone | new => exact (List.getElem?_append_left hi).trans h
  | snapshot | snapshots | use => exact h

/-- What is told of an operation on a registry is what it tells by itself. -/
theorem hears?_eq {s : Shelf α} {i : Nat} {r : Registry α} (h : s.registries[i]? = some r)
    (op : Op α) :
    s.hears? i op = (s.asks? i op).map fun asked =>
      (.of (asked.perform r).reply, (asked.perform r).events) := by
  cases op with
  | on op =>
      by_cases hcurrent : s.current = i
      · subst hcurrent
        simp [hears?, asks?, perform, registry_eq h]
      · simp [hears?, asks?, hcurrent]
  | _ => rfl

/-- From any moment on a registry is what its share of the run makes of it. -/
theorem registries_run {s : Shelf α} {i : Nat} {r : Registry α} (h : s.registries[i]? = some r)
    (ops : List (Op α)) : (s.run ops).registries[i]? = some (r.run (s.share i ops)) := by
  induction ops generalizing s r with
  | nil => exact h
  | cons op ops ih =>
      have hstep := registries_perform h op
      rw [run_cons, share]
      cases hasks : s.asks? i op with
      | none =>
          rw [hasks] at hstep
          exact ih hstep
      | some asked =>
          rw [hasks] at hstep
          exact ih hstep

/-- Its share is answered as if it were alone. -/
theorem heard_eq {s : Shelf α} {i : Nat} {r : Registry α} (h : s.registries[i]? = some r)
    (ops : List (Op α)) :
    s.heard i ops = (r.tellings (s.share i ops)).map fun t => (.of t.1, t.2) := by
  induction ops generalizing s r with
  | nil => rfl
  | cons op ops ih =>
      have hstep := registries_perform h op
      rw [heard, share, hears?_eq h]
      cases hasks : s.asks? i op with
      | none =>
          rw [hasks] at hstep
          exact ih hstep
      | some asked =>
          rw [hasks] at hstep
          exact congrArg (_ :: ·) (ih hstep)

/-! ## Making registries -/

/-- The run ends with the making of registry `i`, which then holds what `r` holds. -/
inductive Made : List (Op α) → Nat → Registry α → Prop
  | first : Made [] 0 ∅
  | new (ops : List (Op α)) : Made (ops ++ [.new]) (start.run ops).registries.length ∅
  | clone (ops : List (Op α)) :
      Made (ops ++ [.clone]) (start.run ops).registries.length (start.run ops).registry

/-- What was made from these operations is among the registries. -/
theorem Made.registries {made : List (Op α)} {i : Nat} {r : Registry α} (h : Made made i r) :
    (start.run made).registries[i]? = some r := by
  cases h with
  | first => rfl
  | new ops | clone ops =>
      rw [run_concat]
      exact List.getElem?_concat_length

/-- Every registry of a run was made in it. -/
theorem exists_made {ops : List (Op α)} {i : Nat} (h : i < (start.run ops).registries.length) :
    ∃ made later r, ops = made ++ later ∧ Made made i r := by
  induction ops using List.reverseRecOn with
  | nil =>
      obtain rfl : i = 0 := Nat.lt_one_iff.mp h
      exact ⟨[], [], ∅, rfl, .first⟩
  | append_singleton ops op ih =>
      by_cases hold : i < (start.run ops).registries.length
      · obtain ⟨made, later, r, rfl, hmade⟩ := ih hold
        exact ⟨made, later ++ [op], r, List.append_assoc .., hmade⟩
      · rw [run_concat, length_perform] at h
        cases op with
        | clone =>
            obtain rfl : i = (start.run ops).registries.length := Nat.eq_of_lt_succ_of_not_lt h hold
            exact ⟨_, [], _, (List.append_nil _).symm, .clone ops⟩
        | new =>
            obtain rfl : i = (start.run ops).registries.length := Nat.eq_of_lt_succ_of_not_lt h hold
            exact ⟨_, [], _, (List.append_nil _).symm, .new ops⟩
        | on | snapshot | snapshots | use => exact absurd h hold

/-! ## Snapshots -/

/-- Snapshots are taken and not given back. -/
theorem snapshots_prefix_perform (s : Shelf α) (op : Op α) :
    s.snapshots <+: (s.perform op).2.1.snapshots := by
  cases op with
  | snapshot => exact List.prefix_append _ _
  | _ => exact List.prefix_refl _

/-- Snapshots are only ever added. -/
theorem snapshots_prefix (s : Shelf α) (ops : List (Op α)) :
    s.snapshots <+: (s.run ops).snapshots := by
  induction ops generalizing s with
  | nil => exact List.prefix_refl _
  | cons op ops ih => exact (s.snapshots_prefix_perform op).trans (ih _)

/-- The snapshots of a run are the entries of the registries that were current when they were
taken. -/
theorem snapshots_run_iff {ops : List (Op α)} {n : Nat} {entries : List α} :
    (start.run ops).snapshots[n]? = some entries ↔
      ∃ before after, ops = before ++ .snapshot :: after ∧
        n = (start.run before).snapshots.length ∧ entries = (start.run before).registry.order := by
  constructor
  · intro h
    induction ops using List.reverseRecOn with
    | nil => contradiction
    | append_singleton ops op ih =>
        by_cases hold : (start.run ops).snapshots[n]? = some entries
        · obtain ⟨before, after, rfl, hn, hentries⟩ := ih hold
          exact ⟨before, after ++ [op], by simp, hn, hentries⟩
        · rw [run_concat] at h
          cases op with
          | snapshot =>
              rcases Nat.lt_or_ge n (start.run ops).snapshots.length with hlt | hge
              · exact absurd ((List.getElem?_append_left hlt).symm.trans h) hold
              · obtain ⟨hn, hentries⟩ := List.getElem?_eq_some_iff.mp h
                obtain rfl : n = (start.run ops).snapshots.length := by
                  simp only [perform, List.length_append, List.length_singleton] at hn
                  omega
                exact ⟨ops, [], rfl, rfl, by simpa [perform] using hentries.symm⟩
          | _ => exact absurd h hold
  · rintro ⟨before, after, rfl, rfl, rfl⟩
    rw [← List.singleton_append, ← List.append_assoc, run_append, run_concat]
    obtain ⟨others, hothers⟩ := snapshots_prefix ((start.run before).perform .snapshot).2.1 after
    rw [← hothers]
    simp [perform]

end Shelf

end OpStack.Registry
