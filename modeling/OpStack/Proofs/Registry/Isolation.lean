import Mathlib.Data.Nat.Count
import OpStack.Behaviour
import OpStack.Proofs.Registry.Shares
import OpStack.Value.Basic

/-!
# OpStack.Proofs.Registry.Isolation

Registries side by side do not see each other, and nothing reaches a snapshot.

Which registries there are besides has no meaning for a registry: in a run some of them can be
left out, with everything that is asked of them and with all snapshots (`Shelf.keeping`), if none
of those that are kept is a copy of one that is not.  Both runs go on side by side (`Keeps`);
a kept registry has another number (`rank`), but the same entries, and the same is told of it.

`registries_isolated` says this, and what a registry is by itself and a snapshot for good.
-/

namespace OpStack.Registry.Shelf

variable {α : Type} (kept : Nat → Bool)

/-! ## Shelves with the same kept registries -/

/-- How many of the registries in front of registry `i` are kept: its number among these. -/
def rank (i : Nat) : Nat := Nat.count (kept · = true) i

/-- The kept registries of a shelf are those of another, in the same order. -/
structure Keeps (s t : Shelf α) : Prop where
  length : t.registries.length = rank kept s.registries.length
  registries : ∀ i < s.registries.length, kept i = true →
    t.registries[rank kept i]? = s.registries[i]?
  current : kept s.current = true → t.current = rank kept s.current

variable {kept}

/-- Counted among those that are kept, a registry has the places before it. -/
theorem rank_succ (i : Nat) : rank kept (i + 1) = rank kept i + if kept i then 1 else 0 :=
  Nat.count_succ _ _

theorem rank_lt {i j : Nat} (hi : kept i = true) (h : i < j) : rank kept i < rank kept j :=
  Nat.count_strict_mono hi h

/-- Those that are kept have places of their own. -/
theorem rank_inj {i j : Nat} (hi : kept i = true) (hj : kept j = true) :
    rank kept i = rank kept j ↔ i = j :=
  ⟨Nat.count_injective hi hj, congrArg _⟩

namespace Keeps

variable {s t : Shelf α}

/-- Both runs have the same registry at hand. -/
theorem registry_eq (h : Keeps kept s t) (hs : s.Placed) (hcurrent : kept s.current = true) :
    t.registry = s.registry := by
  refine Shelf.registry_eq ?_
  rw [h.current hcurrent, h.registries _ hs hcurrent, hs.registry]

/-- A kept registry is made on both sides. -/
theorem append (h : Keeps kept s t) (hnew : kept s.registries.length = true) (r : Registry α) :
    Keeps kept { s with registries := s.registries ++ [r] }
      { t with registries := t.registries ++ [r] } where
  length := by simp [rank_succ, hnew, h.length]
  registries i hi hkept := by
    rw [List.length_append, List.length_singleton] at hi
    rcases Nat.lt_succ_iff_lt_or_eq.mp hi with hold | rfl
    · have hrank := rank_lt hkept hold
      rw [← h.length] at hrank
      rw [List.getElem?_append_left hrank, List.getElem?_append_left hold]
      exact h.registries i hold hkept
    · rw [← h.length, List.getElem?_concat_length, List.getElem?_concat_length]
  current := h.current

/-- Another one is made on one side only. -/
theorem leaveOut (h : Keeps kept s t) (hnew : kept s.registries.length = false) (r : Registry α) :
    Keeps kept { s with registries := s.registries ++ [r] } t where
  length := by simp [rank_succ, hnew, h.length]
  registries i hi hkept := by
    rw [List.length_append, List.length_singleton] at hi
    rcases Nat.lt_succ_iff_lt_or_eq.mp hi with hold | rfl
    · rw [List.getElem?_append_left hold]
      exact h.registries i hold hkept
    · rw [hnew] at hkept
      contradiction
  current := h.current

/-- The current registry is changed on both sides, if it is kept. -/
theorem set (h : Keeps kept s t) (hs : s.Placed) (hcurrent : kept s.current = true)
    (r : Registry α) :
    Keeps kept { s with registries := s.registries.set s.current r }
      { t with registries := t.registries.set t.current r } where
  length := by simpa using h.length
  registries i hi hkept := by
    rw [List.length_set] at hi
    by_cases hsame : s.current = i
    · subst hsame
      have hrank := rank_lt hcurrent hs
      rw [← h.length] at hrank
      rw [h.current hcurrent, List.getElem?_set_self hrank, List.getElem?_set_self hs]
    · have hother : t.current ≠ rank kept i := by
        rw [h.current hcurrent]
        exact fun heq => hsame ((rank_inj hcurrent hkept).mp heq)
      rw [List.getElem?_set_ne hother, List.getElem?_set_ne hsame]
      exact h.registries i hi hkept
  current := h.current

/-- Otherwise it is changed on one side only. -/
theorem setOther (h : Keeps kept s t) (hcurrent : kept s.current = false) (r : Registry α) :
    Keeps kept { s with registries := s.registries.set s.current r } t where
  length := by simpa using h.length
  registries i hi hkept := by
    rw [List.length_set] at hi
    have hother : s.current ≠ i := by
      rintro rfl
      rw [hcurrent] at hkept
      contradiction
    rw [List.getElem?_set_ne hother]
    exact h.registries i hi hkept
  current := h.current

end Keeps

/-- In the beginning there is one registry in both runs. -/
theorem keeps_start (h : kept 0 = true) : Keeps kept (start : Shelf α) start where
  length := by simp [start, rank, Nat.count_succ, h]
  registries i hi _ := by
    obtain rfl : i = 0 := Nat.lt_one_iff.mp hi
    simp [rank]
  current _ := by simp [start, rank]

/-! ## Runs with fewer registries -/

variable [Identified α]

section

variable (kept)

/-- The operation in a run where only the kept registries are made.  Nothing is asked of the
others, no snapshots are taken or read, and the kept ones have other numbers. -/
def keeps? (s : Shelf α) : Op α → Option (Op α)
  | .on op => if kept s.current then some (.on op) else none
  | .snapshot | .snapshots => none
  | .clone => if kept s.registries.length then some .clone else none
  | .new => if kept s.registries.length then some .new else none
  | .use i =>
    let j := i % s.registries.length
    if kept j then some (.use (rank kept j)) else none

/-- The run in which only the kept registries are made. -/
def keeping (s : Shelf α) : List (Op α) → List (Op α)
  | [] => []
  | op :: ops => (s.keeps? kept op).toList ++ (s.perform op).2.1.keeping ops

/-- What a kept registry is copied from is kept as well. -/
def Op.KeepsSource (s : Shelf α) : Op α → Prop
  | .clone => kept s.registries.length = true → kept s.current = true
  | _ => True

/-- So it is throughout a run. -/
def KeepsSources (s : Shelf α) : List (Op α) → Prop
  | [] => True
  | op :: ops => op.KeepsSource kept s ∧ (s.perform op).2.1.KeepsSources ops

end

namespace Keeps

variable {s t : Shelf α}

/-- Another registry becomes current. -/
theorem use (h : Keeps kept s t) (hs : s.Placed) (i : Nat) :
    Keeps kept (s.perform (.use i)).2.1
      ((s.keeps? kept (.use i)).elim t fun op => (t.perform op).2.1) := by
  have hj : i % s.registries.length < s.registries.length := Nat.mod_lt i (Nat.zero_lt_of_lt hs)
  cases hkept : kept (i % s.registries.length) with
  | true =>
      have hrank := rank_lt hkept hj
      rw [← h.length] at hrank
      simp only [perform, keeps?, hkept, if_true, Option.elim_some]
      exact ⟨h.length, h.registries, fun _ => Nat.mod_eq_of_lt hrank⟩
  | false =>
      simp only [perform, keeps?, hkept, Bool.false_eq_true, if_false, Option.elim_none]
      exact ⟨h.length, h.registries, fun hcurrent => absurd hcurrent (by simp [hkept])⟩

/-- An operation makes a registry, on both sides or on one. -/
theorem make (h : Keeps kept s t) {op : Op α} {r : Registry α}
    (hop : s.keeps? kept op = if kept s.registries.length then some op else none)
    (hs : (s.perform op).2.1 = { s with registries := s.registries ++ [r] })
    (ht : kept s.registries.length = true →
      (t.perform op).2.1 = { t with registries := t.registries ++ [r] }) :
    Keeps kept (s.perform op).2.1 ((s.keeps? kept op).elim t fun op => (t.perform op).2.1) := by
  rw [hop, hs]
  cases hnew : kept s.registries.length with
  | true =>
      rw [if_pos rfl, Option.elim_some, ht hnew]
      exact h.append hnew r
  | false =>
      rw [if_neg Bool.false_ne_true, Option.elim_none]
      exact h.leaveOut hnew r

/-- One operation on both sides, or on one. -/
theorem perform (h : Keeps kept s t) (hs : s.Placed) {op : Op α} (hsource : op.KeepsSource kept s) :
    Keeps kept (s.perform op).2.1 ((s.keeps? kept op).elim t fun op => (t.perform op).2.1) := by
  cases op with
  | on op =>
      cases hcurrent : kept s.current with
      | true =>
          simp only [Shelf.perform, keeps?, hcurrent, if_true, Option.elim_some,
            h.registry_eq hs hcurrent]
          exact h.set hs hcurrent _
      | false =>
          simp only [Shelf.perform, keeps?, hcurrent, Bool.false_eq_true, if_false,
            Option.elim_none]
          exact h.setOther hcurrent _
  | snapshot => exact ⟨h.length, h.registries, h.current⟩
  | snapshots => exact h
  | clone =>
      refine h.make rfl rfl fun hnew => ?_
      rw [Shelf.perform, h.registry_eq hs (hsource hnew)]
  | new => exact h.make rfl rfl fun _ => rfl
  | use i => exact h.use hs i

/-- The same is told of an operation on a kept registry. -/
theorem hears?_eq (h : Keeps kept s t) (hs : s.Placed) {i : Nat} (hi : kept i = true)
    (op : Op α) :
    (s.keeps? kept op).bind (t.hears? (rank kept i)) = s.hears? i op := by
  cases op with
  | on op =>
      cases hcurrent : kept s.current with
      | true =>
          simp only [keeps?, hcurrent, if_true, Option.bind_some, hears?, asks?,
            h.current hcurrent, rank_inj hcurrent hi, Shelf.perform, h.registry_eq hs hcurrent]
      | false =>
          have hother : s.current ≠ i := by
            rintro rfl
            rw [hcurrent] at hi
            contradiction
          simp [keeps?, hcurrent, hears?, asks?, hother]
  | snapshot | snapshots => rfl
  | clone | new | use =>
      simp only [keeps?]
      split <;> rfl

/-- A run and the one with fewer registries lead to shelves with the same kept registries. -/
theorem run (h : Keeps kept s t) (hs : s.Placed) {ops : List (Op α)}
    (hsources : s.KeepsSources kept ops) :
    Keeps kept (s.run ops) (t.run (s.keeping kept ops)) := by
  induction ops generalizing s t with
  | nil => exact h
  | cons op ops ih =>
      have hstep := h.perform hs hsources.1
      rw [keeping]
      cases hop : s.keeps? kept op <;> rw [hop] at hstep <;>
        exact ih hstep (hs.perform op) hsources.2

/-- The same is told in both of what is asked of a kept registry. -/
theorem heard_eq (h : Keeps kept s t) (hs : s.Placed) {ops : List (Op α)}
    (hsources : s.KeepsSources kept ops) {i : Nat} (hi : kept i = true) :
    t.heard (rank kept i) (s.keeping kept ops) = s.heard i ops := by
  induction ops generalizing s t with
  | nil => rfl
  | cons op ops ih =>
      have hstep := h.perform hs hsources.1
      have hhears := h.hears?_eq hs hi op
      rw [keeping, heard, ← hhears]
      cases hop : s.keeps? kept op with
      | none =>
          rw [hop] at hstep
          exact ih hstep (hs.perform op) hsources.2
      | some other =>
          rw [hop] at hstep
          exact congrArg (_ ++ ·) (ih hstep (hs.perform op) hsources.2)

end Keeps

/-- **Registries and snapshots are isolated.**  In a run of operations on registries, each of
which starts empty or as a copy of another one,

1. a registry is what the operations addressed to it since it was made, and no others, make of
   what it was made with;
2. what is told of these operations is what a registry by itself would tell;
3. the operations are addressed to the current registry, and there is always one;
4. the snapshots that are read are the entries of the registries that were current when the
   snapshots were taken;
5. without some of the registries, and without the snapshots, the others have the same entries,
   and the same is told of them, if none of them is a copy of one that is left out. -/
theorem registries_isolated (ops : List (Op α)) :
    let s : Shelf α := start.run ops
    (∀ i r, s.registries[i]? = some r ↔
      ∃ made later first, ops = made ++ later ∧ Made made i first ∧
        r = first.run ((start.run made).share i later)) ∧
    (∀ made later i first, ops = made ++ later → Made made i first →
      (start.run made).heard i later =
        (first.tellings ((start.run made).share i later)).map fun t => (.of t.1, t.2)) ∧
    s.registries[s.current]? = some s.registry ∧
    (∃ all, (s.perform .snapshots).1 = .snapshots all ∧
      ∀ n entries, all[n]? = some entries ↔
        ∃ before after, ops = before ++ .snapshot :: after ∧
          n = (start.run before).snapshots.length ∧
          entries = (start.run before).registry.order) ∧
    ∀ kept : Nat → Bool, kept 0 = true → (start : Shelf α).KeepsSources kept ops →
      let fewer := start.keeping kept ops
      ∀ i, kept i = true →
        start.heard (rank kept i) fewer = start.heard i ops ∧
        (i < s.registries.length →
          (start.run fewer).registries[rank kept i]? = s.registries[i]?) := by
  intro s
  refine ⟨fun i r => ⟨fun h => ?_, ?_⟩, ?_, (placed_start.run ops).registry,
    ⟨s.snapshots, rfl, fun n entries => snapshots_run_iff⟩, fun kept hfirst hsources => ?_⟩
  · obtain ⟨hi, -⟩ := List.getElem?_eq_some_iff.mp h
    obtain ⟨made, later, first, rfl, hmade⟩ := exists_made hi
    have hrun := registries_run hmade.registries later
    rw [← run_append] at hrun
    exact ⟨made, later, first, rfl, hmade, Option.some.inj (h.symm.trans hrun)⟩
  · rintro ⟨made, later, first, rfl, hmade, rfl⟩
    have hrun := registries_run hmade.registries later
    rwa [← run_append] at hrun
  · rintro made later i first - hmade
    exact heard_eq hmade.registries later
  · intro fewer i hi
    have hstart := keeps_start (α := α) hfirst
    exact ⟨hstart.heard_eq placed_start hsources hi, fun hlt =>
      (hstart.run placed_start hsources).registries i hlt hi⟩

/-- A copy loses the entry that it was made with, and the run without it. -/
theorem registries_isolated_copy :
    let m : String → Middleware Unit Unit := fun id => ⟨id, fun _ => .finish (.ok ())⟩
    let before : List (Op (Middleware Unit Unit)) := [.on (.add (m "a") .after), .snapshot]
    let after : List (Op (Middleware Unit Unit)) :=
      [.on (.add (m "b") .after), .use 1, .on (.remove "a"), .on (.add (m "") .after), .use 0,
        .on .ids]
    let ops := before ++ .clone :: after
    let kept : Nat → Bool := (· != 1)
    kept 0 = true ∧ start.KeepsSources kept ops ∧
    start.keeping kept ops =
      [.on (.add (m "a") .after), .on (.add (m "b") .after), .use 0, .on .ids] ∧
    start.heard 0 (start.keeping kept ops) = start.heard 0 ops ∧
    ops = (before ++ [.clone]) ++ after ∧
    (start.run ops).registries[1]? = some ∅ := by
  intro m before after ops kept
  have hsources : start.KeepsSources kept ops :=
    ⟨trivial, trivial, fun _ => rfl, trivial, trivial, trivial, trivial, trivial, trivial, trivial⟩
  obtain ⟨hcontent, -, -, -, hfewer⟩ := registries_isolated ops
  have hcopy := (hcontent 1 _).mpr ⟨before ++ [.clone], after, _, rfl, .clone before, rfl⟩
  exact ⟨rfl, hsources, rfl, (hfewer kept rfl hsources 0 rfl).1, rfl, hcopy⟩

end OpStack.Registry.Shelf
