import Mathlib.Data.List.Basic
import OpStack.Proofs.Registry.Sound

/-!
# OpStack.Proofs.Registry.Cells

What a change makes of a list of entries, cell by cell.

* `Op.Possible` is what a change asks of the list.  Without it the change fails and the
  list stays (`perform_impossible`).
* With it the list becomes `Op.effect`: every entry is replaced by the entries of its
  `Op.cell`, which is the entry itself unless the operation is about it, and `add` puts an
  entry in front of all cells or behind (`perform_possible`).
* `Op.Touches` tells the identifiers that may come or go.  Every other one is found as
  before (`find?_effect`), so what a change asks of it stays as it was
  (`Possible.of_untouched`).

Only `perform_possible` looks at where an entry is cut out of the list; what follows from
it is read off one cell at a time.
-/

namespace OpStack

open Registry

variable {α : Type}

namespace Registry.Op

/-! ## What operations are about -/

/-- The operation is a change; the others only read. -/
def Alters : Op α → Prop
  | add .. | insert .. | swap .. | remove .. | clear => True
  | get _ | contains _ | size | ids | order => False

/-- The operation is a change of one entry. -/
def Single : Op α → Prop
  | add .. | insert .. | swap .. | remove .. => True
  | clear | get _ | contains _ | size | ids | order => False

/-- What is about a single place is a change. -/
theorem Single.alters {op : Op α} (h : op.Single) : op.Alters := by
  cases op with
  | add | insert | swap | remove => exact h
  | clear | get | contains | size | ids | order => exact h.elim

variable [Identified α]

/-- The identifiers in the operation: that of a new entry, the anchor, the target. -/
def mentions : Op α → List String
  | add entry _ => [Identified.id entry]
  | insert entry anchor _ => [Identified.id entry, anchor]
  | swap id entry => [id, Identified.id entry]
  | remove id | get id | contains id => [id]
  | clear | size | ids | order => []

/-- The operation may bring the identifier into the list or take it out. -/
def Touches (id : String) : Op α → Prop
  | add entry _ | insert entry _ _ => id = Identified.id entry
  | swap target entry => id = target ∨ id = Identified.id entry
  | remove target => id = target
  | clear => True
  | get _ | contains _ | size | ids | order => False

/-- The list has what the change asks for. -/
def Possible (xs : List α) : Op α → Prop
  | add entry _ => Roster.refusal? xs entry = none
  | insert entry anchor _ => Roster.refusal? xs entry = none ∧ anchor ∈ names xs
  | swap id entry => id ∈ names xs ∧ Identified.id entry ≠ "" ∧
      (Identified.id entry ≠ id → Identified.id entry ∉ names xs)
  | remove id => id ∈ names xs
  | clear | get _ | contains _ | size | ids | order => True

/-- What touches an identifier mentions it. -/
theorem Single.mem_mentions {op : Op α} (h : op.Single) {id : String} (hid : op.Touches id) :
    id ∈ op.mentions := by
  cases op with
  | add | remove => exact List.mem_singleton.mpr hid
  | insert entry anchor => exact List.mem_cons.mpr (.inl hid)
  | swap target entry => exact List.mem_cons.mpr (hid.imp_right List.mem_singleton.mpr)
  | clear | get | contains | size | ids | order => exact h.elim

/-! ## Cells -/

/-- What stands in the place of an entry after the change. -/
def cell : Op α → α → List α
  | insert entry anchor .before, x => if Identified.id x = anchor then [entry, x] else [x]
  | insert entry anchor .after, x => if Identified.id x = anchor then [x, entry] else [x]
  | swap id entry, x => if Identified.id x = id then [entry] else [x]
  | remove id, x => if Identified.id x = id then [] else [x]
  | clear, _ => []
  | add .., x | get _, x | contains _, x | size, x | ids, x | order, x => [x]

def front : Op α → List α
  | add entry .before => [entry]
  | _ => []

def back : Op α → List α
  | add entry .after => [entry]
  | _ => []

/-- The list after the change, if it is possible. -/
def effect (op : Op α) (xs : List α) : List α := op.front ++ xs.flatMap op.cell ++ op.back

theorem effect_add_before (entry : α) (xs : List α) :
    effect (add entry .before) xs = entry :: xs := by
  rw [effect, show xs.flatMap (cell (add entry .before)) = xs from List.flatMap_singleton' xs]
  simp [front, back]

theorem effect_add_after (entry : α) (xs : List α) :
    effect (add entry .after) xs = xs ++ [entry] := by
  rw [effect, show xs.flatMap (cell (add entry .after)) = xs from List.flatMap_singleton' xs]
  simp [front, back]

theorem effect_clear (xs : List α) : effect clear xs = [] := by
  simp [effect, front, back, cell]

/-- The identifier whose cell the operation changes: the anchor or the target. -/
def place? : Op α → Option String
  | insert _ anchor _ => some anchor
  | swap id _ | remove id => some id
  | add .. | clear | get _ | contains _ | size | ids | order => none

/-- An operation with a place changes the cell there only. -/
theorem cell_of_place {op : Op α} {id : String} (h : op.place? = some id) {x : α}
    (hx : Identified.id x ≠ id) : op.cell x = [x] := by
  cases op with
  | insert entry anchor position =>
      obtain rfl := Option.some.inj h
      cases position <;> exact if_neg hx
  | swap | remove =>
      obtain rfl := Option.some.inj h
      exact if_neg hx
  | add | clear | get | contains | size | ids | order => contradiction

/-- The entry that the change takes out. -/
def taken? (xs : List α) : Op α → Option α
  | swap id _ | remove id => xs.find? (Identified.id · == id)
  | _ => none

/-- An entry that the operation does not mention is its own cell. -/
theorem Single.cell_eq {op : Op α} (h : op.Single) {x : α} (hx : Identified.id x ∉ op.mentions) :
    op.cell x = [x] := by
  cases op with
  | add entry position => rfl
  | insert entry anchor position =>
      have hne : Identified.id x ≠ anchor := fun he => hx (by simp [mentions, he])
      cases position <;> exact if_neg hne
  | swap id entry => exact if_neg fun he => hx (by simp [mentions, he])
  | remove id => exact if_neg fun he => hx (by simp [mentions, he])
  | clear | get | contains | size | ids | order => exact h.elim

/-- The cell of an entry that the operation mentions has no other entries than such. -/
theorem Single.mentions_of_mem_cell {op : Op α} (h : op.Single) {x y : α}
    (hx : Identified.id x ∈ op.mentions) (hy : y ∈ op.cell x) :
    Identified.id y ∈ op.mentions := by
  have hself : y ∈ [x] → Identified.id y ∈ op.mentions := fun hm => List.mem_singleton.mp hm ▸ hx
  cases op with
  | add entry position => exact hself hy
  | insert entry anchor position =>
      cases position <;> simp only [cell] at hy <;> split at hy <;> grind [mentions]
  | swap id entry => simp only [cell] at hy; split at hy <;> grind [mentions]
  | remove id => simp only [cell] at hy; split at hy <;> grind
  | clear | get | contains | size | ids | order => exact h.elim

end Registry.Op

/-! ## Performing -/

variable [Identified α]

namespace Roster

/-- An entry is refused for an empty identifier, or for one that is taken. -/
theorem refusal?_eq_none_iff {xs : List α} {entry : α} :
    refusal? xs entry = none ↔ Identified.id entry ≠ "" ∧ Identified.id entry ∉ names xs := by
  unfold refusal?
  split
  · next hempty => simp [hempty]
  · next hempty =>
      split
      · next hmem => simp [hmem]
      · next hmem => simp [hempty, hmem]

/-- The first entry under an identifier is the one that is found. -/
theorem find?_middle {ys : List α} {x : α} (zs : List α) (hys : Identified.id x ∉ names ys) :
    (ys ++ x :: zs).find? (Identified.id · == Identified.id x) = some x := by
  have hfound := get?_append zs rfl hys
  rwa [get?_ofList] at hfound

/-- An operation with a place leaves everything around that place. -/
theorem effect_middle (op : Op α) {id : String} (hop : op.place? = some id) {ys zs : List α}
    (x : α) (hfree : id ∉ names (ys ++ zs)) :
    op.effect (ys ++ x :: zs) = ys ++ op.cell x ++ zs := by
  have hself : ∀ ws : List α, id ∉ names ws → ws.flatMap op.cell = ws := by
    intro ws hws
    have hsingle : ∀ y ∈ ws, op.cell y = [y] :=
      fun y hy => Op.cell_of_place hop fun he => hws (he ▸ List.mem_map_of_mem hy)
    rw [List.flatMap_congr hsingle, List.flatMap_singleton']
  rw [names_append, List.mem_append, not_or] at hfree
  have hends : op.front = [] ∧ op.back = [] := by
    cases op with
    | add => contradiction
    | insert | swap | remove | clear | get | contains | size | ids | order => exact ⟨rfl, rfl⟩
  rw [Op.effect, hends.1, hends.2, List.flatMap_append, List.flatMap_cons, hself ys hfree.1,
    hself zs hfree.2, List.nil_append, List.append_nil, List.append_assoc]

/-- Where the place of an operation is in the list, and what the operation makes of it. -/
theorem effect_at (op : Op α) {id : String} (hop : op.place? = some id) {xs : List α}
    (hxs : Proper xs) (hid : id ∈ names xs) :
    ∃ ys x zs, xs = ys ++ x :: zs ∧ Identified.id x = id ∧ id ∉ names ys ∧
      cut? id xs = some (ys, x, zs) ∧ op.effect xs = ys ++ op.cell x ++ zs := by
  cases hc : cut? id xs with
  | none => exact absurd hid (cut?_eq_none_iff.mp hc)
  | some c =>
      obtain ⟨ys, x, zs⟩ := c
      obtain ⟨rfl, hx, hys⟩ := cut?_eq_some hc
      have hfree := ((proper_middle_iff ys zs x).mp hxs).2.1
      exact ⟨ys, x, zs, rfl, hx, hys, rfl, effect_middle op hop x (hx ▸ hfree)⟩

/-- A change that is possible takes its entry out, tells it to the caller, and makes the
list of the cells. -/
theorem perform_possible {xs : List α} (hxs : Proper xs) {op : Op α} (hop : op.Alters)
    (h : op.Possible xs) : perform xs op = ((op.taken? xs).elim .done .entry, op.effect xs) := by
  cases op with
  | add entry position =>
      have hr : refusal? xs entry = none := h
      cases position with
      | before => simp only [perform, hr, Op.effect_add_before, Op.taken?, Option.elim]
      | after => simp only [perform, hr, Op.effect_add_after, Op.taken?, Option.elim]
  | insert entry anchor position =>
      obtain ⟨ys, x, zs, _, hx, _, hc, heffect⟩ :=
        effect_at (.insert entry anchor position) rfl hxs h.2
      rw [heffect]
      cases position <;> simp [perform, h.1, hc, Op.taken?, Op.cell, hx]
  | swap id entry =>
      obtain ⟨hid, hnamed, hfree⟩ := h
      obtain ⟨ys, old, zs, hlist, rfl, hys, hc, heffect⟩ :=
        effect_at (.swap id entry) rfl hxs hid
      have hfound := find?_middle zs hys
      rw [← hlist] at hfound
      have hnew : ¬(Identified.id entry ≠ Identified.id old ∧ Identified.id entry ∈ names xs) :=
        fun hn => hfree hn.1 hn.2
      rw [heffect]
      simp only [perform, hc, if_neg hnamed, if_neg hnew, Op.taken?, hfound]
      simp [Op.cell]
  | remove id =>
      obtain ⟨ys, old, zs, hlist, rfl, hys, hc, heffect⟩ :=
        effect_at (.remove id) rfl hxs h
      have hfound := find?_middle zs hys
      rw [← hlist] at hfound
      rw [heffect]
      simp only [perform, hc, Op.taken?, hfound]
      simp [Op.cell]
  | clear => rw [Op.effect_clear]; rfl
  | get | contains | size | ids | order => exact hop.elim

/-- A possible change keeps the list proper. -/
theorem proper_effect {xs : List α} (hxs : Proper xs) {op : Op α} (hop : op.Alters)
    (h : op.Possible xs) : Proper (op.effect xs) := by
  have hperform := proper_perform hxs op
  rwa [perform_possible hxs hop h] at hperform

/-- A change that is not possible fails. -/
theorem perform_impossible {xs : List α} {op : Op α} (h : ¬ op.Possible xs) :
    ∃ e, perform xs op = (.failed e, xs) := by
  cases op with
  | add entry position =>
      obtain ⟨e, he⟩ := Option.ne_none_iff_exists'.mp h
      exact ⟨e, by simp only [perform, he]⟩
  | insert entry anchor position =>
      cases hr : refusal? xs entry with
      | some e => exact ⟨e, by simp only [perform, hr]⟩
      | none =>
          have hc : cut? anchor xs = none := cut?_eq_none_iff.mpr fun hm => h ⟨hr, hm⟩
          exact ⟨.anchorNotFound anchor, by simp only [perform, hr, hc]⟩
  | swap id entry =>
      cases hc : cut? id xs with
      | none => exact ⟨.notFound id, by simp only [perform, hc]⟩
      | some c =>
          have hid : id ∈ names xs := by
            by_contra hm
            rw [cut?_eq_none_iff.mpr hm] at hc
            contradiction
          by_cases hempty : Identified.id entry = ""
          · exact ⟨.emptyId, by simp only [perform, hc, if_pos hempty]⟩
          · have hdup : Identified.id entry ≠ id ∧ Identified.id entry ∈ names xs := by
              by_contra hn
              exact h ⟨hid, hempty, fun hne hm => hn ⟨hne, hm⟩⟩
            exact ⟨.duplicateId (Identified.id entry),
              by simp only [perform, hc, if_neg hempty, if_pos hdup]⟩
  | remove id => exact ⟨.notFound id, by simp only [perform, cut?_eq_none_iff.mpr h]⟩
  | clear | get | contains | size | ids | order => exact absurd trivial h

/-- Reading never fails and changes nothing. -/
theorem perform_reads (xs : List α) {op : Op α} (hop : ¬ op.Alters) :
    (∀ e, (perform xs op).1 ≠ .failed e) ∧ (perform xs op).2 = xs := by
  cases op with
  | add | insert | swap | remove | clear => exact absurd trivial hop
  | get | contains | size | ids | order => exact ⟨fun e => by simp [perform], rfl⟩

end Roster

/-! ## What an operation leaves alone -/

namespace Registry.Op

/-- In a cell, an identifier that is not touched is that of the entry itself. -/
theorem find?_cell {op : Op α} {id : String} (h : ¬ op.Touches id) (x : α) :
    (op.cell x).find? (Identified.id · == id) =
      Option.guard (fun y => Identified.id y == id) x := by
  have hself : [x].find? (Identified.id · == id) =
      Option.guard (fun y => Identified.id y == id) x := by
    by_cases hx : Identified.id x = id <;> simp [Option.guard, hx]
  cases op with
  | insert entry anchor position =>
      have hentry : Identified.id entry ≠ id := Ne.symm h
      cases position <;> simp only [cell] <;> split <;> grind [Option.guard]
  | swap target entry =>
      obtain ⟨htarget, hentry⟩ := not_or.mp h
      simp only [cell]
      split <;> grind [Option.guard]
  | remove target =>
      simp only [cell]
      split <;> grind [Option.guard, Touches]
  | clear => exact absurd trivial h
  | add | get | contains | size | ids | order => exact hself

/-- An identifier that is not touched is found as before. -/
theorem find?_effect {op : Op α} {id : String} (h : ¬ op.Touches id) (xs : List α) :
    (op.effect xs).find? (Identified.id · == id) = xs.find? (Identified.id · == id) := by
  have hfront : op.front.find? (Identified.id · == id) = none := by
    unfold front
    split
    · simpa using Ne.symm h
    · rfl
  have hback : op.back.find? (Identified.id · == id) = none := by
    unfold back
    split
    · simpa using Ne.symm h
    · rfl
  rw [effect, List.find?_append, List.find?_append, hfront, hback, List.find?_flatMap,
    Option.none_or, Option.or_none, List.find?_eq_findSome?_guard]
  exact congrArg (xs.findSome? ·) (funext (find?_cell h))

/-- An identifier that is not touched is in the list or not as before. -/
theorem mem_names_effect {op : Op α} {id : String} (h : ¬ op.Touches id) (xs : List α) :
    id ∈ names (op.effect xs) ↔ id ∈ names xs := by
  have hfound : ∀ ys : List α, id ∈ names ys ↔ (ys.find? (Identified.id · == id)).isSome := by
    intro ys
    simp [names]
  rw [hfound, hfound, find?_effect h]

/-- What is asked of untouched identifiers stays possible. -/
theorem Possible.of_untouched {p q : Op α} {xs : List α} (h : p.Possible xs)
    (hq : ∀ id ∈ p.mentions, ¬ q.Touches id) : p.Possible (q.effect xs) := by
  have hsame : ∀ id ∈ p.mentions, (id ∈ names (q.effect xs) ↔ id ∈ names xs) :=
    fun id hid => mem_names_effect (hq id hid) xs
  cases p with
  | add entry position =>
      simpa only [Possible, Roster.refusal?_eq_none_iff, hsame _ List.mem_cons_self] using h
  | insert entry anchor position =>
      have hanchor := hsame anchor (by simp [mentions])
      simpa only [Possible, Roster.refusal?_eq_none_iff, hsame _ List.mem_cons_self, hanchor]
        using h
  | swap id entry =>
      have hentry := hsame (Identified.id entry) (by simp [mentions])
      simpa only [Possible, hsame _ List.mem_cons_self, hentry] using h
  | remove id => simpa only [Possible, hsame _ List.mem_cons_self] using h
  | clear | get | contains | size | ids | order => trivial

/-- An entry under an untouched identifier is the one that is taken out, too. -/
theorem taken?_effect {p q : Op α} (hq : ∀ id ∈ p.mentions, ¬ q.Touches id) (xs : List α) :
    p.taken? (q.effect xs) = p.taken? xs := by
  cases p with
  | swap id | remove id => exact find?_effect (hq id List.mem_cons_self) xs
  | add | insert | clear | get | contains | size | ids | order => rfl

end Registry.Op

/-! ## Registries -/

namespace Registry

/-- A registry that its entries determine tells them. -/
theorem ofList_inj {xs ys : List α} : ofList xs = ofList ys ↔ xs = ys :=
  ⟨fun h => by simpa using congrArg order h, congrArg ofList⟩

/-- Every operation of a run leaves a sound registry sound. -/
theorem Sound.run {r : Registry α} (hr : Sound r) (ops : List (Op α)) : Sound (run r ops) := by
  induction ops generalizing r with
  | nil => exact hr
  | cons op ops ih => exact ih (hr.perform op)

/-- Operations on any registries lead to sound ones only. -/
theorem Shelf.sound_of_mem {history : List (Shelf.Op α)} {r : Registry α}
    (hr : r ∈ ((start : Shelf α).run history).registries) : Sound r := by
  have hstart : (start : Shelf α).AllSound := List.forall_mem_singleton.mpr sound_empty
  exact hstart.run history r hr

namespace Op

def Succeeds (r : Registry α) (op : Op α) : Prop := ∀ e, (op.perform r).reply ≠ .failed e

/-- What succeeds is possible. -/
theorem Succeeds.possible {xs : List α} {op : Op α} (h : op.Succeeds (ofList xs)) :
    op.Possible xs := by
  by_contra hn
  obtain ⟨e, he⟩ := Roster.perform_impossible hn
  apply h e
  rw [(agrees_perform xs op).reply, he]

/-- What a possible change tells the caller, and what it leaves. -/
theorem Possible.perform {xs : List α} {op : Op α} (h : op.Possible xs) (hop : op.Alters)
    (hxs : Roster.Proper xs) :
    (op.perform (ofList xs)).reply = (op.taken? xs).elim .done .entry ∧
      (op.perform (ofList xs)).registry = ofList (op.effect xs) := by
  have hagrees := agrees_perform xs op
  rw [Roster.perform_possible hxs hop h] at hagrees
  exact ⟨hagrees.reply, hagrees.registry⟩

/-- A possible change succeeds. -/
theorem Possible.succeeds {xs : List α} {op : Op α} (h : op.Possible xs) (hop : op.Alters)
    (hxs : Roster.Proper xs) : op.Succeeds (ofList xs) := by
  intro e
  rw [(h.perform hop hxs).1]
  cases op.taken? xs <;> simp

end Op

end Registry

end OpStack
