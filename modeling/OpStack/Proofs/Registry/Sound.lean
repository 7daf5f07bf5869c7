import OpStack.Behaviour
import OpStack.Proofs.Registry.Roster
import OpStack.Registry.Shelf
import OpStack.Value.Basic

/-!
# OpStack.Proofs.Registry.Sound

What holds of every registry that operations lead to from the empty one, copies that
were made on the way included:

1. no identifier is empty, and no two places have the same one;
2. every entry stands under the identifier that it reports;
3. all ways to read it tell of the same entries.

The first rule is one of lists of entries, `Roster.Proper`, and the machine on lists keeps
it (`proper_perform`).  The second rule leaves a registry that its entries determine, and
of such a registry the third rule holds (`Sound.readsAgree`).
-/

namespace OpStack

open Registry

variable {α : Type} [Identified α]

/-! ## Lists of entries -/

namespace Roster

/-- Every entry has an identifier, and no two have the same one. -/
structure Proper (xs : List α) : Prop where
  named : "" ∉ names xs
  distinct : (names xs).Nodup

theorem proper_nil : Proper ([] : List α) := ⟨List.not_mem_nil, List.nodup_nil⟩

/-- The identifiers around an entry and its own, in another order. -/
theorem names_middle (ys zs : List α) (x : α) :
    (names (ys ++ x :: zs)).Perm (Identified.id x :: names (ys ++ zs)) := by
  simp only [names_append, names_cons]
  exact List.perm_middle

/-- An entry among others is one whose identifier is none of theirs. -/
theorem proper_middle_iff (ys zs : List α) (x : α) :
    Proper (ys ++ x :: zs) ↔
      Identified.id x ≠ "" ∧ Identified.id x ∉ names (ys ++ zs) ∧ Proper (ys ++ zs) := by
  have hperm := names_middle ys zs x
  constructor
  · intro h
    have hnamed : "" ∉ Identified.id x :: names (ys ++ zs) :=
      fun hm => h.named (hperm.mem_iff.mpr hm)
    have hdistinct := List.nodup_cons.mp (hperm.nodup_iff.mp h.distinct)
    refine ⟨fun hx => hnamed (hx ▸ List.mem_cons_self), hdistinct.1, ?_, hdistinct.2⟩
    exact fun hm => hnamed (List.mem_cons_of_mem _ hm)
  · rintro ⟨hx, hnew, hrest⟩
    constructor
    · intro hm
      rcases List.mem_cons.mp (hperm.mem_iff.mp hm) with hempty | hother
      · exact hx hempty.symm
      · exact hrest.named hother
    · exact hperm.nodup_iff.mpr (List.nodup_cons.mpr ⟨hnew, hrest.distinct⟩)

/-- An entry that the list takes can stand anywhere in it. -/
theorem proper_place (ys zs : List α) {entry : α} (h : Proper (ys ++ zs))
    (hr : refusal? (ys ++ zs) entry = none) : Proper (ys ++ entry :: zs) := by
  unfold refusal? at hr
  split at hr
  · contradiction
  · next hempty =>
      split at hr
      · contradiction
      · next hmem => exact (proper_middle_iff ys zs entry).mpr ⟨hempty, hmem, h⟩

/-- What an operation leaves is proper again. -/
theorem proper_perform {xs : List α} (h : Proper xs) (op : Op α) : Proper (perform xs op).2 := by
  cases op with
  | add entry position =>
      cases hr : refusal? xs entry with
      | some e => simpa only [perform, hr] using h
      | none =>
          cases position with
          | before =>
              simp only [perform, hr]
              exact proper_place [] xs h hr
          | after =>
              simp only [perform, hr]
              exact proper_place xs [] (by rwa [List.append_nil]) (by rwa [List.append_nil])
  | insert entry anchor position =>
      cases hr : refusal? xs entry with
      | some e => simpa only [perform, hr] using h
      | none =>
          cases hc : cut? anchor xs with
          | none => simpa only [perform, hr, hc] using h
          | some c =>
              obtain ⟨ys, x, zs⟩ := c
              obtain ⟨rfl, _, _⟩ := cut?_eq_some hc
              cases position with
              | before =>
                  simp only [perform, hr, hc]
                  exact proper_place ys (x :: zs) h hr
              | after =>
                  simp only [perform, hr, hc]
                  rw [List.append_cons] at h hr ⊢
                  exact proper_place (ys ++ [x]) zs h hr
  | swap id entry =>
      cases hc : cut? id xs with
      | none => simpa only [perform, hc] using h
      | some c =>
          obtain ⟨ys, old, zs⟩ := c
          obtain ⟨rfl, hold, _⟩ := cut?_eq_some hc
          obtain ⟨_, hfree, hrest⟩ := (proper_middle_iff ys zs old).mp h
          simp only [perform, hc]
          split
          · exact h
          · next hempty =>
              split
              · exact h
              · next hdup =>
                  refine (proper_middle_iff ys zs entry).mpr ⟨hempty, fun hm => ?_, hrest⟩
                  -- an identifier of another entry is neither the old one nor refused
                  have hne : Identified.id entry ≠ id := fun he => hfree (by rwa [hold, ← he])
                  exact hdup ⟨hne, (names_middle ys zs old).mem_iff.mpr (List.mem_cons_of_mem _ hm)⟩
  | remove id =>
      cases hc : cut? id xs with
      | none => simpa only [perform, hc] using h
      | some c =>
          obtain ⟨ys, old, zs⟩ := c
          obtain ⟨rfl, _, _⟩ := cut?_eq_some hc
          simp only [perform, hc]
          exact ((proper_middle_iff ys zs old).mp h).2.2
  | clear => exact proper_nil
  | get | contains | size | ids | order => exact h

/-- In a proper list, the entry that is found is the only one under its identifier. -/
theorem toList_find? {xs : List α} (h : (names xs).Nodup) (id : String) :
    (xs.find? (Identified.id · == id)).toList = xs.filter (Identified.id · == id) := by
  induction xs with
  | nil => rfl
  | cons x xs ih =>
      obtain ⟨hx, hxs⟩ := List.nodup_cons.mp h
      by_cases hid : Identified.id x = id
      · have hnone : xs.filter (Identified.id · == id) = [] := by
          rw [List.filter_eq_nil_iff]
          intro y hy hyid
          exact hx (hid.trans (eq_of_beq hyid).symm ▸ List.mem_map_of_mem hy)
        simp [hid, hnone]
      · simp [hid, ih hxs]

end Roster

/-! ## Registries -/

namespace Registry

/-- The identifiers of the places can tell them apart, and are those of the entries. -/
structure Sound (r : Registry α) : Prop where
  named : "" ∉ r.ids
  distinct : r.ids.Nodup
  own : ∀ s ∈ r.slots, s.key = Identified.id s.entry

/-- Identifiers, entries, size, membership and look-up tell of the same entries: look-up
gives the one entry with the identifier, or none. -/
structure ReadsAgree (r : Registry α) : Prop where
  ids : r.ids = r.order.map Identified.id
  size_ids : r.size = r.ids.length
  size_order : r.size = r.order.length
  isEmpty : r.isEmpty = true ↔ r.size = 0
  contains (id : String) : r.contains id = true ↔ id ∈ r.ids
  get? (id : String) : (r.get? id).toList = r.order.filter (Identified.id · == id)

/-- Entries with proper identifiers make a sound registry. -/
theorem sound_ofList {xs : List α} (h : Roster.Proper xs) : Sound (ofList xs) := by
  refine ⟨?_, ?_, ?_⟩
  · rw [ids_ofList]
    exact h.named
  · rw [ids_ofList]
    exact h.distinct
  · intro s hs
    obtain ⟨x, _, rfl⟩ := List.mem_map.mp hs
    rfl

/-- Entries that stand under their own identifiers determine the registry. -/
theorem Sound.eq_ofList {r : Registry α} (h : Sound r) :
    r = ofList r.order ∧ Roster.Proper r.order := by
  have heq : r = ofList r.order := by
    obtain ⟨slots⟩ := r
    simp only [ofList, order, List.map_map, Registry.mk.injEq]
    refine (List.map_id' slots).symm.trans (List.map_congr_left fun s hs => ?_)
    simp only [Function.comp_apply, ← h.own s hs]
  have hids : r.ids = names r.order := by
    conv => lhs; rw [heq, ids_ofList]
  exact ⟨heq, hids ▸ h.named, hids ▸ h.distinct⟩

/-- A sound registry is one of a list. -/
theorem Sound.exists_ofList {r : Registry α} (h : Sound r) :
    ∃ xs, r = ofList xs ∧ Roster.Proper xs :=
  ⟨r.order, h.eq_ofList⟩

/-- All ways to read a sound registry agree. -/
theorem Sound.readsAgree {r : Registry α} (h : Sound r) : ReadsAgree r := by
  obtain ⟨xs, rfl, hproper⟩ := h.exists_ofList
  constructor
  · simp only [ids_ofList, order_ofList, names]
  · simp only [size_ofList, ids_ofList, names, List.length_map]
  · simp only [size_ofList, order_ofList]
  · simp only [isEmpty_ofList, size_ofList, List.isEmpty_iff, List.length_eq_zero_iff]
  · simp only [contains_ofList, ids_ofList, decide_eq_true_eq, implies_true]
  · intro id
    rw [get?_ofList, order_ofList, Roster.toList_find? hproper.distinct]

theorem sound_empty : Sound (∅ : Registry α) := sound_ofList Roster.proper_nil

/-- What an operation leaves is sound again, also if it fails. -/
theorem Sound.perform {r : Registry α} (h : Sound r) (op : Op α) :
    Sound (op.perform r).registry := by
  obtain ⟨xs, rfl, hproper⟩ := h.exists_ofList
  rw [(agrees_perform xs op).registry]
  exact sound_ofList (Roster.proper_perform hproper op)

namespace Shelf

def AllSound (s : Shelf α) : Prop := ∀ r ∈ s.registries, Sound r

theorem AllSound.registry {s : Shelf α} (h : s.AllSound) : Sound s.registry := by
  rw [Shelf.registry, List.getD_eq_getElem?_getD]
  cases hr : s.registries[s.current]? with
  | none => exact sound_empty
  | some r => exact h r (List.mem_of_getElem? hr)

/-- Every operation leaves all registries sound, the new ones too. -/
theorem AllSound.perform {s : Shelf α} (h : s.AllSound) (op : Op α) :
    (s.perform op).2.1.AllSound := by
  cases op with
  | on op =>
      intro r hr
      rcases List.mem_or_eq_of_mem_set hr with hold | rfl
      · exact h r hold
      · exact h.registry.perform op
  | clone => exact List.forall_mem_append.mpr ⟨h, List.forall_mem_singleton.mpr h.registry⟩
  | new => exact List.forall_mem_append.mpr ⟨h, List.forall_mem_singleton.mpr sound_empty⟩
  | snapshot | snapshots | use => exact h

/-- So does a run. -/
theorem AllSound.run {s : Shelf α} (h : s.AllSound) (ops : List (Op α)) : (s.run ops).AllSound := by
  induction ops generalizing s with
  | nil => exact h
  | cons op ops ih => exact ih (h.perform op)

/-- **Every reachable registry is sound.**  Whatever is done to registries that start
empty or as copies of each other, successful or failing, the identifiers of each are not
empty and pairwise distinct, each entry stands under the identifier that it reports, and
all ways to read it agree. -/
theorem sound_of_mem_registries (ops : List (Op α)) :
    ∀ r ∈ ((start : Shelf α).run ops).registries, Sound r ∧ ReadsAgree r := by
  have hstart : (start : Shelf α).AllSound := List.forall_mem_singleton.mpr sound_empty
  intro r hr
  have hsound := hstart.run ops r hr
  exact ⟨hsound, hsound.readsAgree⟩

/-- A middleware is exchanged for one with another identifier after a copy was made. -/
theorem sound_of_swapped :
    let m : String → Middleware Unit Unit := fun id => ⟨id, fun _ => .finish (.ok ())⟩
    let ops : List (Op (Middleware Unit Unit)) :=
      [.on (.add (m "a") .after), .on (.add (m "b") .before), .clone, .on (.add (m "") .after),
        .on (.swap "a" (m "c"))]
    ofList [m "b", m "c"] ∈ (start.run ops).registries ∧
    Sound (ofList [m "b", m "c"]) ∧ ReadsAgree (ofList [m "b", m "c"]) := by
  intro m ops
  have hrun : (start.run ops).registries = [ofList [m "b", m "c"], ofList [m "b", m "a"]] := rfl
  have hmem : ofList [m "b", m "c"] ∈ (start.run ops).registries := by
    rw [hrun]
    exact List.mem_cons_self
  exact ⟨hmem, sound_of_mem_registries ops _ hmem⟩

end Shelf

end Registry

end OpStack
