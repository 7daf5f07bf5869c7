import OpStack.Proofs.Registry.Cells

/-!
# OpStack.Proofs.Registry.Independence

Which changes of single entries can be exchanged:

1. two that have no identifier in common, unless both add an entry at the same end;
2. two that insert next to one anchor, one before and one behind it.

Both follow from what the operations do to a single cell: `effect_comm` puts together that
it makes no difference to any cell which operation comes first (`cell_comm`,
`cell_comm_of_anchor`), and that not both put something at one end of the list.  What an
operation tells the caller does not change as long as the other one touches none of its
identifiers (`reply_undisturbed`).

`perform_comm` says this for all registries that runs lead to.  Two entries added at the
same end stand there in the order in which they came, so this exception is a real one.
-/

namespace OpStack

open Registry

variable {α : Type} [Identified α]

namespace Registry.Op

/-! ## Cells of two operations -/

section Cells

variable {p q : Op α}

/-- Entries that the operation does not mention are their own cells. -/
theorem Single.flatMap_cell (hp : p.Single) {xs : List α}
    (h : ∀ x ∈ xs, Identified.id x ∉ p.mentions) : xs.flatMap p.cell = xs := by
  rw [List.flatMap_congr fun x hx => hp.cell_eq (h x hx), List.flatMap_singleton']

/-- An entry at an end of the list is the new one. -/
theorem mentions_of_mem_ends {x : α} (hx : x ∈ p.front ∨ x ∈ p.back) :
    Identified.id x ∈ p.mentions := by
  cases p with
  | add entry position => cases position <;> simp_all [front, back, mentions]
  | insert | swap | remove | clear | get | contains | size | ids | order =>
      simp [front, back] at hx

/-- Where one operation mentions the entry of a cell, the other one leaves the cell alone. -/
theorem cell_comm_of_mentions (hp : p.Single) (hq : q.Single)
    (hd : p.mentions.Disjoint q.mentions) {x : α} (hx : Identified.id x ∈ p.mentions) :
    (p.cell x).flatMap q.cell = (q.cell x).flatMap p.cell := by
  have hother : (p.cell x).flatMap q.cell = p.cell x :=
    hq.flatMap_cell fun y hy hm => hd (hp.mentions_of_mem_cell hx hy) hm
  have hself : q.cell x = [x] := hq.cell_eq fun hm => hd hx hm
  rw [hother, hself, List.flatMap_singleton]

/-- Operations without a common identifier can be exchanged in every cell. -/
theorem cell_comm (hp : p.Single) (hq : q.Single) (hd : p.mentions.Disjoint q.mentions) (x : α) :
    (p.cell x).flatMap q.cell = (q.cell x).flatMap p.cell := by
  by_cases hx : Identified.id x ∈ p.mentions
  · exact cell_comm_of_mentions hp hq hd hx
  · by_cases hy : Identified.id x ∈ q.mentions
    · exact (cell_comm_of_mentions hq hp (fun _ hm hm' => hd hm' hm) hy).symm
    · rw [hp.cell_eq hx, hq.cell_eq hy, List.flatMap_singleton, List.flatMap_singleton,
        hp.cell_eq hx, hq.cell_eq hy]

/-- What is inserted on both sides of an anchor can be exchanged in every cell. -/
theorem cell_comm_of_anchor {a b : α} {anchor : String} (ha : Identified.id a ≠ anchor)
    (hb : Identified.id b ≠ anchor) (x : α) :
    (cell (insert a anchor .before) x).flatMap (cell (insert b anchor .after)) =
      (cell (insert b anchor .after) x).flatMap (cell (insert a anchor .before)) := by
  by_cases hx : Identified.id x = anchor <;> simp [cell, hx, ha, hb]

/-- Operations that can be exchanged in every cell and at both ends make the same list in
both orders. -/
theorem effect_comm (hp : p.Single) (hq : q.Single)
    (hcells : ∀ x, (p.cell x).flatMap q.cell = (q.cell x).flatMap p.cell)
    (hpq : ∀ x ∈ p.front ++ p.back, Identified.id x ∉ q.mentions)
    (hqp : ∀ x ∈ q.front ++ q.back, Identified.id x ∉ p.mentions)
    (hfront : q.front ++ p.front = p.front ++ q.front)
    (hback : p.back ++ q.back = q.back ++ p.back) (xs : List α) :
    q.effect (p.effect xs) = p.effect (q.effect xs) := by
  have hp' := List.forall_mem_append.mp hpq
  have hq' := List.forall_mem_append.mp hqp
  simp only [effect, List.flatMap_append, List.flatMap_assoc, hq.flatMap_cell hp'.1,
    hq.flatMap_cell hp'.2, hp.flatMap_cell hq'.1, hp.flatMap_cell hq'.2, hcells,
    List.append_assoc, hback]
  rw [← List.append_assoc, hfront, List.append_assoc]

end Cells

/-! ## Two operations on a registry -/

/-- After the operation `q`, the operation `p` tells the caller what it tells without it. -/
def Undisturbed (r : Registry α) (q p : Op α) : Prop :=
  (p.perform (q.perform r).registry).reply = (p.perform r).reply

/-- Both operations lead to the same registry in both orders. -/
def Meet (r : Registry α) (p q : Op α) : Prop :=
  (q.perform (p.perform r).registry).registry = (p.perform (q.perform r).registry).registry

def AddTogether (p q : Op α) : Prop :=
  ∃ a b position, p = add a position ∧ q = add b position

variable {xs : List α} {p q : Op α}

/-- Behind an operation that touches none of its identifiers, a possible operation is
possible, tells the caller the same, and makes the list of its cells. -/
theorem reply_undisturbed (hxs : Roster.Proper xs) (hp : p.Single) (hq : q.Single)
    (hpos : p.Possible xs) (hqos : q.Possible xs) (hpq : ∀ id ∈ p.mentions, ¬ q.Touches id) :
    Undisturbed (ofList xs) q p ∧
      (p.perform (q.perform (ofList xs)).registry).registry =
        ofList (p.effect (q.effect xs)) := by
  have hproper := Roster.proper_effect hxs hq.alters hqos
  obtain ⟨hreply, hregistry⟩ := (hpos.of_untouched hpq).perform hp.alters hproper
  refine ⟨?_, ?_⟩
  · rw [Undisturbed, (hqos.perform hq.alters hxs).2, hreply, taken?_effect hpq,
      (hpos.perform hp.alters hxs).1]
  · rw [(hqos.perform hq.alters hxs).2, hregistry]

/-- Two entries added at the same end stand there in the order in which they came. -/
theorem effect_ne_of_addTogether (h : AddTogether p q) (hd : p.mentions.Disjoint q.mentions)
    (xs : List α) : q.effect (p.effect xs) ≠ p.effect (q.effect xs) := by
  obtain ⟨a, b, position, rfl, rfl⟩ := h
  have hne : a ≠ b := by
    rintro rfl
    exact hd List.mem_cons_self List.mem_cons_self
  have hcells : ∀ (c : α) (ys : List α), ys.flatMap (cell (add c position)) = ys :=
    fun _ ys => List.flatMap_singleton' ys
  intro heq
  cases position <;> simp [effect, front, back, hcells, hne, hne.symm] at heq

omit [Identified α] in
/-- Otherwise at most one of them puts an entry at an end of the list. -/
theorem ends_of_not_addTogether (h : ¬ AddTogether p q) :
    (p.front = [] ∨ q.front = []) ∧ (p.back = [] ∨ q.back = []) := by
  cases p with
  | add a position =>
      cases q with
      | add b position' =>
          have hne : position ≠ position' := fun he => h ⟨a, b, position, rfl, he ▸ rfl⟩
          cases position <;> cases position' <;> simp [front, back] at hne ⊢
      | insert | swap | remove | clear | get | contains | size | ids | order =>
          exact ⟨.inr rfl, .inr rfl⟩
  | insert | swap | remove | clear | get | contains | size | ids | order =>
      exact ⟨.inl rfl, .inl rfl⟩

/-- Operations without a common identifier lead to the same list in both orders, unless
they add together. -/
theorem effect_comm_iff (hp : p.Single) (hq : q.Single) (hd : p.mentions.Disjoint q.mentions)
    (xs : List α) : q.effect (p.effect xs) = p.effect (q.effect xs) ↔ ¬ AddTogether p q := by
  constructor
  · exact fun heq h => effect_ne_of_addTogether h hd xs heq
  · intro h
    have hends := ends_of_not_addTogether h
    refine effect_comm hp hq (cell_comm hp hq hd) ?_ ?_ ?_ ?_ xs
    · exact fun x hx hm => hd (mentions_of_mem_ends (List.mem_append.mp hx)) hm
    · exact fun x hx hm => hd hm (mentions_of_mem_ends (List.mem_append.mp hx))
    · rcases hends.1 with hnil | hnil <;> simp [hnil]
    · rcases hends.2 with hnil | hnil <;> simp [hnil]

/-- One operation inserts an entry before an anchor, the other one another entry behind it. -/
def Beside (p q : Op α) : Prop :=
  ∃ a b anchor, p = insert a anchor .before ∧ q = insert b anchor .after ∧
    Identified.id a ≠ Identified.id b

/-- What both sides of an anchor have in common is only the anchor, which none of the
operations touches. -/
theorem untouched_of_beside (h : Beside p q) (hpos : p.Possible xs) (hqos : q.Possible xs) :
    (∀ id ∈ p.mentions, ¬ q.Touches id) ∧ (∀ id ∈ q.mentions, ¬ p.Touches id) ∧
      q.effect (p.effect xs) = p.effect (q.effect xs) := by
  obtain ⟨a, b, anchor, rfl, rfl, hne⟩ := h
  have hnew : ∀ {c : α}, Roster.refusal? xs c = none → Identified.id c ≠ anchor :=
    fun hc he => (Roster.refusal?_eq_none_iff.mp hc).2 (he ▸ hpos.2)
  have ha := hnew hpos.1
  have hb := hnew hqos.1
  refine ⟨?_, ?_, ?_⟩
  · simp [mentions, Touches, hne, hb.symm]
  · simp [mentions, Touches, hne.symm, ha.symm]
  · have hp : Single (insert a anchor .before) := trivial
    have hq : Single (insert b anchor .after) := trivial
    exact effect_comm hp hq (cell_comm_of_anchor ha hb) (by simp [front, back])
      (by simp [front, back]) rfl rfl xs

/-! ## Exchanging operations -/

/-- **Independent operations commute.**  Two changes of single entries, each possible on a
registry that operations have led to,

1. tell the caller the same in both orders if they have no identifier in common, and lead to
   the same registry, except if both add an entry at the same end;
2. tell the caller the same in both orders and lead to the same registry if they insert two
   entries with different identifiers on both sides of one anchor. -/
theorem perform_comm (history : List (Shelf.Op α)) (r : Registry α)
    (hr : r ∈ ((Shelf.start : Shelf α).run history).registries) (p q : Op α) (hp : p.Single)
    (hq : q.Single) (hpr : p.Succeeds r) (hqr : q.Succeeds r) :
    (p.mentions.Disjoint q.mentions →
      Undisturbed r q p ∧ Undisturbed r p q ∧ (Meet r p q ↔ ¬ AddTogether p q)) ∧
    (Beside p q → Undisturbed r q p ∧ Undisturbed r p q ∧ Meet r p q) := by
  obtain ⟨xs, rfl, hproper⟩ := (Shelf.sound_of_mem hr).exists_ofList
  have hpos := hpr.possible
  have hqos := hqr.possible
  -- both parts read the last registry off the lists, so they differ only in the lists
  have hexchange : (∀ id ∈ p.mentions, ¬ q.Touches id) → (∀ id ∈ q.mentions, ¬ p.Touches id) →
      Undisturbed (ofList xs) q p ∧ Undisturbed (ofList xs) p q ∧
        (Meet (ofList xs) p q ↔ q.effect (p.effect xs) = p.effect (q.effect xs)) := by
    intro hpq hqp
    obtain ⟨hundisturbed, hleft⟩ := reply_undisturbed hproper hp hq hpos hqos hpq
    obtain ⟨hundisturbed', hleft'⟩ := reply_undisturbed hproper hq hp hqos hpos hqp
    refine ⟨hundisturbed, hundisturbed', ?_⟩
    rw [Meet, hleft, hleft', ofList_inj]
  constructor
  · intro hd
    rw [← effect_comm_iff hp hq hd xs]
    exact hexchange (fun id hid ht => hd hid (hq.mem_mentions ht))
      (fun id hid ht => hd (hp.mem_mentions ht) hid)
  · intro h
    obtain ⟨hpq, hqp, hlists⟩ := untouched_of_beside h hpos hqos
    obtain ⟨hundisturbed, hundisturbed', hmeet⟩ := hexchange hpq hqp
    exact ⟨hundisturbed, hundisturbed', hmeet.mpr hlists⟩

/-- The neighbour of an anchor is removed, and an entry is inserted between the two. -/
theorem meet_neighbours :
    let m : String → Middleware Unit Unit := fun id => ⟨id, fun _ => .finish (.ok ())⟩
    let r := ofList [m "a", m "b"]
    let p : Op (Middleware Unit Unit) := .remove "a"
    let q : Op (Middleware Unit Unit) := .insert (m "c") "b" .before
    p.Succeeds r ∧ q.Succeeds r ∧ p.mentions.Disjoint q.mentions ∧ ¬ AddTogether p q ∧
    Undisturbed r q p ∧ Undisturbed r p q ∧ Meet r p q := by
  intro m r p q
  have hr : r ∈ ((Shelf.start : Shelf (Middleware Unit Unit)).run
      [.on (.add (m "b") .after), .on (.add (m "a") .before)]).registries :=
    List.mem_singleton.mpr rfl
  have hpr : p.Succeeds r := by
    intro e
    rw [show (p.perform r).reply = .entry (m "a") from rfl]
    simp
  have hqr : q.Succeeds r := by
    intro e
    rw [show (q.perform r).reply = .done from rfl]
    simp
  have hd : p.mentions.Disjoint q.mentions := by
    show ["a"].Disjoint ["c", "b"]
    simp [List.Disjoint]
  have hadd : ¬ AddTogether p q := by
    rintro ⟨a, b, position, hp, _⟩
    simp [p] at hp
  obtain ⟨hundisturbed, hundisturbed', hmeet⟩ :=
    (perform_comm _ r hr p q trivial trivial hpr hqr).1 hd
  exact ⟨hpr, hqr, hd, hadd, hundisturbed, hundisturbed', hmeet.mpr hadd⟩

end Registry.Op

end OpStack
