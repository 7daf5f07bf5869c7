import Mathlib.Data.List.Flatten
import OpStack.Proofs.Registry.Cells

/-!
# OpStack.Proofs.Registry.Lineage

What becomes of a place in a registry while operations go on around it.  Identifiers do
not tell places apart for long: `swap` gives a place another one, and an identifier that
became free can come back in another place.  So a place is followed from one moment on:

* `Op.heir?` — under which identifier it is found after one operation, if it still is there;
* `heir?` — after a run.

An operation leaves the heirs of all places in the order of the places
(`sublist_perform`), since each cell holds the heir of its own entry
(`Op.sublist_cell`), and so does a run (`sublist_run`).  `order_kept` says this from any
moment of a run on, so it is about places that were opened on the way, too.
-/

namespace OpStack

open Registry

/-! ## Two in a list -/

/-- Of two members of a list one stands before the other. -/
theorem pair_sublist_or {β : Type} {a b : β} {l : List β} (ha : a ∈ l) (hb : b ∈ l)
    (hne : a ≠ b) : [a, b].Sublist l ∨ [b, a].Sublist l := by
  induction l with
  | nil => exact absurd ha List.not_mem_nil
  | cons x l ih =>
      rcases List.mem_cons.mp ha with rfl | hal
      · have hbl : b ∈ l := (List.mem_cons.mp hb).resolve_left hne.symm
        exact .inl ((List.singleton_sublist.mpr hbl).cons_cons a)
      · rcases List.mem_cons.mp hb with rfl | hbl
        · exact .inr ((List.singleton_sublist.mpr hal).cons_cons b)
        · exact (ih hal hbl).imp (.cons x) (.cons x)

/-- In a list without doubles, they do not stand the other way round, too. -/
theorem not_pair_sublist_swap {β : Type} {a b : β} {l : List β} (hl : l.Nodup)
    (h : [a, b].Sublist l) : ¬ [b, a].Sublist l := by
  intro h'
  induction l with
  | nil => exact absurd (List.sublist_nil.mp h) (List.cons_ne_nil _ _)
  | cons x l ih =>
      obtain ⟨hx, hl⟩ := List.nodup_cons.mp hl
      cases h with
      | cons _ h =>
          cases h' with
          | cons _ h' => exact ih hl h h'
          | cons_cons _ h' => exact hx (h.subset (by simp))
      | cons_cons _ h =>
          cases h' with
          | cons _ h' => exact hx (h'.subset (by simp))
          | cons_cons _ h' => exact hx (h.subset (by simp))

variable {α : Type} [Identified α]

namespace Registry

/-! ## Heirs -/

/-- Under which identifier a place is found after a successful operation, if it still is
there. -/
def Op.successor? : Op α → String → Option String
  | swap target entry, id => some (if id = target then Identified.id entry else id)
  | remove target, id => if id = target then none else some id
  | clear, _ => none
  | add .., id | insert .., id | get _, id | contains _, id | size, id | ids, id | order, id =>
    some id

/-- Under which identifier the place of `id` is found after the operation, if it still is
there.  An operation that fails leaves it where it is. -/
def Op.heir? (r : Registry α) (op : Op α) (id : String) : Option String :=
  match (op.perform r).reply with
  | .failed _ => some id
  | _ => op.successor? id

/-- Under which identifier the place of `id` is found after the operations, if it still is
there. -/
def heir? (r : Registry α) : List (Op α) → String → Option String
  | [], id => some id
  | op :: ops, id => (op.heir? r id).bind (heir? (op.perform r).registry ops)

/-- An operation that failed renames nothing. -/
theorem Op.heir?_of_failed {r : Registry α} {op : Op α} {e : Error}
    (h : (op.perform r).reply = .failed e) (id : String) : op.heir? r id = some id := by
  rw [heir?, h]

/-- One that succeeded renames as it is meant to. -/
theorem Op.heir?_of_succeeds {r : Registry α} {op : Op α} (h : op.Succeeds r) (id : String) :
    op.heir? r id = op.successor? id := by
  unfold heir?
  split
  · next e he => exact absurd he (h e)
  · rfl

/-! ## One operation -/

/-- The heir of an entry stands in its cell. -/
theorem Op.sublist_cell (op : Op α) (x : α) :
    (op.successor? (Identified.id x)).toList.Sublist (names (op.cell x)) := by
  cases op with
  | insert entry anchor position =>
      cases position <;> simp only [successor?, cell] <;> split <;> simp
  | swap target entry => simp only [successor?, cell]; split <;> simp
  | remove target => simp only [successor?, cell]; split <;> simp
  | clear => exact .slnil
  | add | get | contains | size | ids | order => exact .refl _

/-- The heirs of all entries stand in their order in the list of the cells. -/
theorem Op.sublist_effect (op : Op α) (xs : List α) :
    ((names xs).filterMap op.successor?).Sublist (names (op.effect xs)) := by
  have hcells : ((names xs).filterMap op.successor?).Sublist (names (xs.flatMap op.cell)) := by
    rw [names, List.filterMap_map, List.filterMap_eq_flatMap_toList, names, List.map_flatMap]
    exact List.Sublist.flatMap_right xs fun x _ => op.sublist_cell x
  rw [effect, names_append, names_append]
  exact (hcells.trans (List.sublist_append_right _ _)).trans (List.sublist_append_left _ _)

/-- The heirs of all places stand in their order after the operation. -/
theorem sublist_perform {r : Registry α} (hr : Sound r) (op : Op α) :
    (r.ids.filterMap (op.heir? r)).Sublist (op.perform r).registry.ids := by
  obtain ⟨xs, rfl, hproper⟩ := hr.exists_ofList
  rw [ids_ofList, (agrees_perform xs op).registry, ids_ofList]
  have hreply := (agrees_perform xs op).reply
  by_cases hop : op.Alters
  · by_cases hpos : op.Possible xs
    · have hsucceeds := hpos.succeeds hop hproper
      rw [funext (Op.heir?_of_succeeds hsucceeds), Roster.perform_possible hproper hop hpos]
      exact op.sublist_effect xs
    · obtain ⟨e, he⟩ := Roster.perform_impossible hpos
      rw [he] at hreply
      rw [funext (Op.heir?_of_failed hreply), List.filterMap_some, he]
  · obtain ⟨hsucceeds, hlist⟩ := Roster.perform_reads xs hop
    rw [hlist, funext (Op.heir?_of_succeeds fun e => hreply ▸ hsucceeds e)]
    have hsame : (op.successor? : String → Option String) = some := by
      cases op with
      | add | insert | swap | remove | clear => exact absurd trivial hop
      | get | contains | size | ids | order => rfl
    rw [hsame, List.filterMap_some]

/-! ## Runs -/

/-- The heirs of all places stand in their order after a run. -/
theorem sublist_run {r : Registry α} (hr : Sound r) (ops : List (Op α)) :
    (r.ids.filterMap (heir? r ops)).Sublist (run r ops).ids := by
  induction ops generalizing r with
  | nil =>
      rw [show heir? r [] = some from rfl, List.filterMap_some]
      exact .refl _
  | cons op ops ih =>
      have hfirst := (sublist_perform hr op).filterMap (heir? (op.perform r).registry ops)
      rw [List.filterMap_filterMap] at hfirst
      exact hfirst.trans (ih (hr.perform op))

/-- **Stable order.**  From any moment of a run on that starts at a registry which
operations have led to, whatever is added, inserted, exchanged, renamed and removed,

1. the places of that moment that are still there in the end stand in the same order;
2. so of any two of them the one that stood before the other still does. -/
theorem order_kept (history : List (Shelf.Op α)) (r : Registry α)
    (hr : r ∈ ((Shelf.start : Shelf α).run history).registries) (before after : List (Op α)) :
    let moment := run r before
    let last := run r (before ++ after)
    (moment.ids.filterMap (heir? moment after)).Sublist last.ids ∧
    ∀ a ∈ moment.ids, ∀ b ∈ moment.ids, ∀ a' b',
      heir? moment after a = some a' → heir? moment after b = some b' →
      ([a, b].Sublist moment.ids ↔ [a', b'].Sublist last.ids) := by
  intro moment last
  have hmoment : Sound moment := (Shelf.sound_of_mem hr).run before
  have hlast : last = run moment after := List.foldl_append
  have hkept := sublist_run hmoment after
  rw [← hlast] at hkept
  have hdistinct : last.ids.Nodup := hlast ▸ (hmoment.run after).distinct
  have hpair : ∀ {a b a' b'}, heir? moment after a = some a' → heir? moment after b = some b' →
      [a, b].Sublist moment.ids → [a', b'].Sublist last.ids := by
    intro a b a' b' ha hb h
    have hheirs := h.filterMap (heir? moment after)
    simp only [List.filterMap_cons, ha, hb, List.filterMap_nil] at hheirs
    exact hheirs.trans hkept
  refine ⟨hkept, fun a hma b hmb a' b' ha hb => ⟨hpair ha hb, fun h => ?_⟩⟩
  by_cases hne : a = b
  · -- one place does not have two heirs
    subst hne
    obtain rfl := Option.some.inj (ha.symm.trans hb)
    exact absurd h (not_pair_sublist_swap hdistinct h)
  · rcases pair_sublist_or hma hmb hne with hab | hba
    · exact hab
    · exact absurd (hpair hb ha hba) (not_pair_sublist_swap hdistinct h)

/-- The identifier of a place that got another one comes back in a new place. -/
theorem order_kept_renamed :
    let m : String → Middleware Unit Unit := fun id => ⟨id, fun _ => .finish (.ok ())⟩
    let r := ofList [m "a", m "b"]
    let ops : List (Op (Middleware Unit Unit)) :=
      [.swap "a" (m "c"), .add (m "a") .after, .remove "x"]
    heir? r ops "a" = some "c" ∧ heir? r ops "b" = some "b" ∧
    (run r ops).ids = ["c", "b", "a"] ∧ ["c", "b"].Sublist (run r ops).ids := by
  intro m r ops
  have hr : r ∈ ((Shelf.start : Shelf (Middleware Unit Unit)).run
      [.on (.add (m "b") .after), .on (.add (m "a") .before)]).registries :=
    List.mem_singleton.mpr rfl
  have ha : heir? r ops "a" = some "c" := rfl
  have hb : heir? r ops "b" = some "b" := rfl
  have hids : (run r []).ids = ["a", "b"] := rfl
  have hkept := (order_kept _ r hr [] ops).2 "a" (by simp [hids]) "b" (by simp [hids]) "c" "b" ha hb
  rw [hids] at hkept
  exact ⟨ha, hb, rfl, hkept.mp (.refl _)⟩

end Registry

end OpStack
