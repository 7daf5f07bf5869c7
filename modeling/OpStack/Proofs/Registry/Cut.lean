import OpStack.Registry.Op

/-!
# OpStack.Proofs.Registry.Cut

A registry that holds every entry under the identifier that the entry reports is
known by its entries alone: it is `ofList xs`.

What an operation does next to an entry, or in its place, is described by a cut of the
list there: `cut? id xs` is `(ys, x, zs)` for the entries before, the entry and the
entries behind.  The lemmas on `ofList (ys ++ zs)` and `ofList (ys ++ x :: zs)` say
what the edits of a registry do at index `ys.length`; afterwards no proof counts
places again.
-/

namespace OpStack.Registry

variable {α : Type} [Identified α]

/-! ## Registries known by their entries -/

/-- The entries in order, each under the identifier that it reports. -/
def ofList (xs : List α) : Registry α := ⟨xs.map fun x => ⟨Identified.id x, x⟩⟩

/-- The identifiers that the entries report. -/
def names (xs : List α) : List String := xs.map Identified.id

@[simp] theorem names_nil : names ([] : List α) = [] := rfl

@[simp] theorem names_cons (x : α) (xs : List α) :
    names (x :: xs) = Identified.id x :: names xs := rfl

@[simp] theorem names_append (xs ys : List α) : names (xs ++ ys) = names xs ++ names ys :=
  List.map_append

@[simp] theorem ofList_nil : ofList ([] : List α) = ∅ := rfl

/-- The identifiers are those that the entries report. -/
@[simp] theorem ids_ofList (xs : List α) : (ofList xs).ids = names xs := by
  simp [ids, ofList, names]

@[simp] theorem order_ofList (xs : List α) : (ofList xs).order = xs := by
  simp [order, ofList, Function.comp_def]

@[simp] theorem size_ofList (xs : List α) : (ofList xs).size = xs.length := by
  simp [size, ofList]

@[simp] theorem isEmpty_ofList (xs : List α) : (ofList xs).isEmpty = xs.isEmpty := by
  simp [isEmpty, ofList]

/-- An identifier is held if an entry reports it. -/
@[simp] theorem contains_ofList (xs : List α) (id : String) :
    (ofList xs).contains id = decide (id ∈ names xs) := by
  induction xs with
  | nil => rfl
  | cons x xs ih =>
      have hcons : (ofList (x :: xs)).contains id =
          ((Identified.id x == id) || (ofList xs).contains id) := rfl
      rw [hcons, ih, names_cons]
      by_cases hx : Identified.id x = id
      · simp [hx]
      · simp [hx, Ne.symm hx]

/-- What is found is the first entry with the identifier. -/
@[simp] theorem get?_ofList (xs : List α) (id : String) :
    (ofList xs).get? id = xs.find? (Identified.id · == id) := by
  simp only [get?, ofList, List.find?_map, Option.map_map]
  exact congrFun Option.map_id _

/-! ## Cuts -/

/-- Cuts the list at the first entry that reports `id`. -/
def cut? (id : String) : List α → Option (List α × α × List α)
  | [] => none
  | x :: xs =>
    if Identified.id x = id then some ([], x, xs)
    else (cut? id xs).map fun c => (x :: c.1, c.2.1, c.2.2)

/-- There is no cut exactly where no entry reports `id`. -/
theorem cut?_eq_none_iff {id : String} {xs : List α} : cut? id xs = none ↔ id ∉ names xs := by
  induction xs with
  | nil => simp [cut?]
  | cons x xs ih =>
      by_cases hx : Identified.id x = id
      · simp [cut?, hx]
      · simp [cut?, hx, Ne.symm hx, ih]

/-- The parts of a cut: they make up the list, the entry reports `id`, and no earlier
one does. -/
theorem cut?_eq_some {id : String} {xs ys zs : List α} {x : α}
    (h : cut? id xs = some (ys, x, zs)) :
    xs = ys ++ x :: zs ∧ Identified.id x = id ∧ id ∉ names ys := by
  induction xs generalizing ys with
  | nil => simp [cut?] at h
  | cons y xs ih =>
      by_cases hy : Identified.id y = id
      · rw [cut?, if_pos hy] at h
        obtain ⟨rfl, rfl, rfl⟩ := Option.some.inj h
        exact ⟨rfl, hy, List.not_mem_nil⟩
      · rw [cut?, if_neg hy] at h
        obtain ⟨⟨ys', x', zs'⟩, hc, heq⟩ := Option.map_eq_some_iff.mp h
        obtain ⟨rfl, rfl, rfl⟩ := heq
        obtain ⟨hxs, hx, hys⟩ := ih hc
        refine ⟨by rw [hxs, List.cons_append], hx, ?_⟩
        simp [Ne.symm hy, hys]

/-! ## Reading at a cut -/

/-- The entry of a cut stands behind the entries before it. -/
theorem indexOf?_append {id : String} {ys : List α} {x : α} (zs : List α)
    (hx : Identified.id x = id) (hys : id ∉ names ys) :
    (ofList (ys ++ x :: zs)).indexOf? id = some ys.length := by
  induction ys with
  | nil => simp [indexOf?, ofList, List.findIdx?_cons, hx]
  | cons y ys ih =>
      have hy : Identified.id y ≠ id := fun h => hys (by simp [h])
      have hrest : id ∉ names ys := fun h => hys (by simp [h])
      have hcons : (ofList (y :: ys ++ x :: zs)).indexOf? id =
          ((ofList (ys ++ x :: zs)).indexOf? id).map (· + 1) := by
        simp [indexOf?, ofList, List.findIdx?_cons, hy]
      rw [hcons, ih hrest]
      rfl

/-- Without an entry there is no place. -/
theorem indexOf?_eq_none {id : String} {xs : List α} (h : id ∉ names xs) :
    (ofList xs).indexOf? id = none := by
  simp only [indexOf?, ofList, List.findIdx?_eq_none_iff, List.mem_map]
  rintro s ⟨x, hx, rfl⟩
  have hne : Identified.id x ≠ id := fun he => h (he ▸ List.mem_map_of_mem hx)
  exact beq_eq_false_iff_ne.mpr hne

/-- The entry of a cut is the one found. -/
theorem get?_append {id : String} {ys : List α} {x : α} (zs : List α)
    (hx : Identified.id x = id) (hys : id ∉ names ys) :
    (ofList (ys ++ x :: zs)).get? id = some x := by
  have hbefore : ys.find? (Identified.id · == id) = none := by
    rw [List.find?_eq_none]
    intro y hy
    have hne : Identified.id y ≠ id := fun he => hys (he ▸ List.mem_map_of_mem hy)
    simp [hne]
  rw [get?_ofList, List.find?_append, hbefore]
  simp [hx]

/-! ## Edits at a cut -/

/-- A place opened behind `ys` holds the entry between `ys` and the rest. -/
theorem placeAt_append (ys zs : List α) (x : α) :
    (ofList (ys ++ zs)).placeAt ys.length (Identified.id x) x = ofList (ys ++ x :: zs) := by
  induction ys with
  | nil => rfl
  | cons y ys ih =>
      simp only [placeAt, ofList, Registry.mk.injEq, List.cons_append, List.map_cons,
        List.length_cons, List.insertIdx_succ_cons] at ih ⊢
      rw [ih]

/-- The place dropped behind `ys` is that of the entry there. -/
theorem dropAt_append (ys zs : List α) (x : α) :
    (ofList (ys ++ x :: zs)).dropAt ys.length = ofList (ys ++ zs) := by
  induction ys with
  | nil => rfl
  | cons y ys ih =>
      simp only [dropAt, ofList, Registry.mk.injEq, List.cons_append, List.map_cons,
        List.length_cons, List.eraseIdx_cons_succ] at ih ⊢
      rw [ih]

/-- The place filled behind `ys` keeps its identifier, which the new entry reports too. -/
theorem fillAt_append (ys zs : List α) {x y : α} (h : Identified.id y = Identified.id x) :
    (ofList (ys ++ x :: zs)).fillAt ys.length y = ofList (ys ++ y :: zs) := by
  induction ys with
  | nil => simp [fillAt, ofList, List.modify_zero_cons, h]
  | cons w ys ih =>
      simp only [fillAt, ofList, Registry.mk.injEq, List.cons_append, List.map_cons,
        List.length_cons, List.modify_succ_cons] at ih ⊢
      rw [ih]

end OpStack.Registry
