import OpStack.Proofs.Registry.Conservation

/-!
# OpStack.Proofs.Registry.Placement

Where entries come to stand that are added at the ends and inserted next to one anchor, in
any order:

```
added before, last first | in front | inserted before |
  anchor |
inserted after, last first | behind | added after
```

The anchor cuts the registry into two sides, and an operation makes one side longer at one of
its ends (`effect_places`).  Neither side knows of the other, nor one end of a side of the
other end: in a run, what comes to one end stands there in the order of the calls or the other
way round (`foldl_widen`).  `ids_placed` puts the four ends together.
-/

namespace OpStack

open Registry

variable {α : Type}

namespace Registry

/-! ## Placing next to an anchor -/

namespace Op

/-- The operation adds an entry, or inserts one next to the anchor, if there is one. -/
def Places (anchor? : Option String) : Op α → Prop
  | add .. => True
  | insert _ anchor _ => anchor? = some anchor
  | swap .. | remove _ | clear | get _ | contains _ | size | ids | order => False

/-- What places an entry is a change. -/
theorem Places.alters {anchor? : Option String} {op : Op α} (h : op.Places anchor?) :
    op.Alters := by
  cases op with
  | add | insert => trivial
  | swap | remove | clear | get | contains | size | ids | order => exact h.elim

/-- Such an operation brings an entry. -/
theorem Places.exists_given {anchor? : Option String} {op : Op α} (h : op.Places anchor?) :
    ∃ x, op.given? = some x := by
  cases op with
  | add entry | insert entry => exact ⟨entry, rfl⟩
  | swap | remove | clear | get | contains | size | ids | order => exact h.elim

/-- The entry that the operation adds at this end. -/
def added? (position : Position) : Op α → Option α
  | add entry there => if there = position then some entry else none
  | _ => none

def inserted? (position : Position) : Op α → Option α
  | insert entry _ there => if there = position then some entry else none
  | _ => none

/-- Makes the list longer at its ends by what the operation has for each. -/
def widen (first? last? : Op α → Option α) (ys : List α) (op : Op α) : List α :=
  (first? op).toList ++ ys ++ (last? op).toList

/-- What is put in front of a list again and again stands there last first, what is put behind
it in order. -/
theorem foldl_widen (first? last? : Op α → Option α) (ys : List α) (ops : List (Op α)) :
    ops.foldl (widen first? last?) ys =
      (ops.filterMap first?).reverse ++ ys ++ ops.filterMap last? := by
  induction ops generalizing ys with
  | nil => simp
  | cons op ops ih =>
      rw [List.foldl_cons, ih, widen, List.filterMap_cons, List.filterMap_cons]
      cases first? op <;> cases last? op <;> simp

/-- What the operation makes of the entries in front of the anchor. -/
def ahead : List α → Op α → List α := widen (added? .before) (inserted? .before)

/-- What the operation makes of the entries behind the anchor. -/
def behind : List α → Op α → List α := widen (inserted? .after) (added? .after)

variable [Identified α]

/-- Each side of the anchor goes its own way. -/
theorem effect_places {op : Op α} {y : α} (hop : op.Places (some (Identified.id y)))
    {ys zs : List α} (hfree : Identified.id y ∉ names (ys ++ zs)) :
    op.effect (ys ++ y :: zs) = ahead ys op ++ y :: behind zs op := by
  cases op with
  | add entry position =>
      cases position <;>
        simp [effect_add_before, effect_add_after, ahead, behind, widen, added?, inserted?]
  | insert entry anchor position =>
      obtain rfl := Option.some.inj hop
      rw [Roster.effect_middle _ rfl y hfree]
      cases position <;> simp [cell, ahead, behind, widen, added?, inserted?]
  | swap | remove | clear | get | contains | size | ids | order => exact hop.elim

/-- Without an anchor, there is one list with two ends. -/
theorem effect_places_none {op : Op α} (hop : op.Places none) (xs : List α) :
    op.effect xs = widen (added? .before) (added? .after) xs op := by
  cases op with
  | add entry position =>
      cases position <;> simp [effect_add_before, effect_add_after, widen, added?]
  | insert => exact absurd hop (Option.some_ne_none _).symm
  | swap | remove | clear | get | contains | size | ids | order => exact hop.elim

/-- Where the anchor is there, nothing is asked for but an identifier that is new. -/
theorem Places.possible_iff {anchor? : Option String} {op : Op α} (h : op.Places anchor?)
    {x : α} (hx : op.given? = some x) {xs : List α}
    (hanchor : ∀ anchor ∈ anchor?, anchor ∈ names xs) :
    op.Possible xs ↔ Identified.id x ≠ "" ∧ Identified.id x ∉ names xs := by
  cases op with
  | add entry position =>
      obtain rfl := Option.some.inj hx
      exact Roster.refusal?_eq_none_iff
  | insert entry anchor position =>
      obtain rfl := Option.some.inj hx
      have hmem : anchor ∈ names xs := hanchor anchor h
      simp [Possible, Roster.refusal?_eq_none_iff, hmem]
  | swap | remove | clear | get | contains | size | ids | order => exact h.elim

/-- Afterwards its identifier is there besides the others. -/
theorem Places.names_effect_perm {anchor? : Option String} {op : Op α} (h : op.Places anchor?)
    {x : α} (hx : op.given? = some x) {xs : List α} (hxs : Roster.Proper xs)
    (hpossible : op.Possible xs) :
    (names (op.effect xs)).Perm (Identified.id x :: names xs) := by
  have hperm := effect_perm hxs h.alters hpossible
  have hmoved : op.taken? xs = none ∧ op.cleared xs = [] := by
    cases op with
    | add | insert => exact ⟨rfl, rfl⟩
    | swap | remove | clear | get | contains | size | ids | order => exact h.elim
  rw [hx, hmoved.1, hmoved.2] at hperm
  exact (hperm.map Identified.id).symm

end Op

/-! ## Runs -/

/-- What the operations of a run add at this end, in the order of the calls. -/
def added (position : Position) (ops : List (Op α)) : List α :=
  ops.filterMap (Op.added? position)

/-- What the operations of a run insert on this side of the anchor, in the order of the calls. -/
def inserted (position : Position) (ops : List (Op α)) : List α :=
  ops.filterMap (Op.inserted? position)

def given (ops : List (Op α)) : List α := ops.filterMap Op.given?

variable [Identified α]

/-- No operation of the run fails. -/
def AllSucceed : Registry α → List (Op α) → Prop
  | _, [] => True
  | r, op :: ops => op.Succeeds r ∧ AllSucceed (op.perform r).registry ops

/-- What the run brings has identifiers that are not empty, and no two entries, new or old,
have the same one. -/
def Fresh (r : Registry α) (ops : List (Op α)) : Prop :=
  "" ∉ names (given ops) ∧ (names (given ops) ++ r.ids).Nodup

variable {anchor? : Option String} {ops : List (Op α)}

/-- A run that places entries goes through exactly if their identifiers are new. -/
theorem allSucceed_iff_fresh {xs : List α} (hxs : Roster.Proper xs)
    (hops : ∀ op ∈ ops, op.Places anchor?) (hanchor : ∀ anchor ∈ anchor?, anchor ∈ names xs) :
    AllSucceed (ofList xs) ops ↔ Fresh (ofList xs) ops := by
  induction ops generalizing xs with
  | nil => simpa [AllSucceed, Fresh, given] using hxs.distinct
  | cons op ops ih =>
      obtain ⟨hop, hrest⟩ := List.forall_mem_cons.mp hops
      obtain ⟨x, hx⟩ := hop.exists_given
      have hpossible_iff := hop.possible_iff hx hanchor
      have hfresh : Fresh (ofList xs) (op :: ops) ↔ op.Possible xs ∧
          "" ∉ names (given ops) ∧ (Identified.id x :: (names (given ops) ++ names xs)).Nodup := by
        rw [hpossible_iff]
        simp only [Fresh, given, List.filterMap_cons, hx, ids_ofList, names_cons,
          List.cons_append, List.nodup_cons, List.mem_cons, List.mem_append]
        grind
      have hsucceeds : op.Succeeds (ofList xs) ↔ op.Possible xs :=
        ⟨Op.Succeeds.possible, fun h => h.succeeds hop.alters hxs⟩
      rw [AllSucceed, hfresh, hsucceeds]
      refine and_congr_right fun hpossible => ?_
      -- behind the first operation its identifier is an old one: fresh is the same up to order
      have hnames := hop.names_effect_perm hx hxs hpossible
      have hstill : ∀ anchor ∈ anchor?, anchor ∈ names (op.effect xs) := fun anchor h =>
        hnames.mem_iff.mpr (List.mem_cons_of_mem _ (hanchor anchor h))
      have hmiddle := (hnames.append_left (names (given ops))).trans List.perm_middle
      rw [(hpossible.perform hop.alters hxs).2,
        ih (Roster.proper_effect hxs hop.alters hpossible) hrest hstill, Fresh, ids_ofList,
        hmiddle.nodup_iff]

/-- The first step of a run that goes through, if the operation makes `ys` of the list. -/
theorem AllSucceed.step {xs ys : List α} (hxs : Roster.Proper xs) {op : Op α} (hop : op.Alters)
    (h : AllSucceed (ofList xs) (op :: ops)) (heffect : op.effect xs = ys) :
    Roster.Proper ys ∧ AllSucceed (ofList ys) ops ∧
      run (ofList xs) (op :: ops) = run (ofList ys) ops := by
  have hpossible := h.1.possible
  have hregistry := (hpossible.perform hop hxs).2
  have hrest := h.2
  have hrun : run (ofList xs) (op :: ops) = run (op.perform (ofList xs)).registry ops := rfl
  rw [hregistry, heffect] at hrest hrun
  exact ⟨heffect ▸ Roster.proper_effect hxs hop hpossible, hrest, hrun⟩

/-- A run goes through each side of the anchor alone. -/
theorem run_places {y : α} {ys zs : List α} (hproper : Roster.Proper (ys ++ y :: zs))
    (hops : ∀ op ∈ ops, op.Places (some (Identified.id y)))
    (hall : AllSucceed (ofList (ys ++ y :: zs)) ops) :
    run (ofList (ys ++ y :: zs)) ops =
      ofList (ops.foldl Op.ahead ys ++ y :: ops.foldl Op.behind zs) := by
  -- both sides grow with each operation, so the induction is for any two sides
  induction ops generalizing ys zs with
  | nil => rfl
  | cons op ops ih =>
      obtain ⟨hop, hrest⟩ := List.forall_mem_cons.mp hops
      have hfree := ((Roster.proper_middle_iff ys zs y).mp hproper).2.1
      obtain ⟨hnext, hall, hrun⟩ := hall.step hproper hop.alters (Op.effect_places hop hfree)
      rw [hrun, ih hnext hrest hall, List.foldl_cons, List.foldl_cons]

/-- Without an anchor it goes through the whole list. -/
theorem run_places_none {xs : List α} (hproper : Roster.Proper xs)
    (hops : ∀ op ∈ ops, op.Places none) (hall : AllSucceed (ofList xs) ops) :
    run (ofList xs) ops =
      ofList (ops.foldl (Op.widen (Op.added? .before) (Op.added? .after)) xs) := by
  induction ops generalizing xs with
  | nil => rfl
  | cons op ops ih =>
      obtain ⟨hop, hrest⟩ := List.forall_mem_cons.mp hops
      obtain ⟨hnext, hall, hrun⟩ := hall.step hproper hop.alters (Op.effect_places_none hop xs)
      rw [hrun, ih hnext hrest hall, List.foldl_cons]

/-- **Placement in closed form.**  A run on a registry that operations have led to, with calls
of `add` and of `insert` next to one anchor in any order and at any positions, goes through
exactly if the new identifiers are not empty, differ from each other and from the old ones.
Then

1. what was added before stands in front of all, last first, and what was added after behind
   all, in the order of the calls;
2. what was inserted before the anchor stands directly in front of it, in the order of the
   calls, and what was inserted after it directly behind it, last first;
3. what was there before stands between, as it did.

Without an anchor, calls of `add` alone put entries at both ends. -/
theorem ids_placed (history : List (Shelf.Op α)) (r : Registry α)
    (hr : r ∈ ((Shelf.start : Shelf α).run history).registries) (ops : List (Op α)) :
    (∀ front anchor back, r.ids = front ++ anchor :: back →
      (∀ op ∈ ops, op.Places (some anchor)) →
      (AllSucceed r ops ↔ Fresh r ops) ∧
      (AllSucceed r ops → (run r ops).ids =
        (names (added .before ops)).reverse ++ front ++ names (inserted .before ops) ++
          [anchor] ++
          (names (inserted .after ops)).reverse ++ back ++ names (added .after ops))) ∧
    (∀ front anchor back, r.order = front ++ anchor :: back →
      (∀ op ∈ ops, op.Places (some (Identified.id anchor))) → AllSucceed r ops →
      (run r ops).order =
        (added .before ops).reverse ++ front ++ inserted .before ops ++
          [anchor] ++
          (inserted .after ops).reverse ++ back ++ added .after ops) ∧
    ((∀ op ∈ ops, op.Places none) →
      (AllSucceed r ops ↔ Fresh r ops) ∧
      (AllSucceed r ops →
        (run r ops).ids =
          (names (added .before ops)).reverse ++ r.ids ++ names (added .after ops) ∧
        (run r ops).order = (added .before ops).reverse ++ r.order ++ added .after ops)) := by
  obtain ⟨xs, rfl, hproper⟩ := (Shelf.sound_of_mem hr).exists_ofList
  simp only [ids_ofList, order_ofList]
  have hbetween : ∀ ys y zs, xs = ys ++ y :: zs →
      (∀ op ∈ ops, op.Places (some (Identified.id y))) → AllSucceed (ofList xs) ops →
      run (ofList xs) ops = ofList ((added .before ops).reverse ++ ys ++ inserted .before ops ++
        [y] ++ (inserted .after ops).reverse ++ zs ++ added .after ops) := by
    rintro ys y zs rfl hops hall
    rw [run_places hproper hops hall, Op.ahead, Op.behind, Op.foldl_widen, Op.foldl_widen]
    simp [added, inserted]
  refine ⟨?_, ?_, ?_⟩
  · intro front anchor back hids hops
    obtain ⟨ys, ws, rfl, rfl, hws⟩ := List.map_eq_append_iff.mp hids
    obtain ⟨y, zs, rfl, rfl, rfl⟩ := List.map_eq_cons_iff.mp hws
    refine ⟨allSucceed_iff_fresh hproper hops (by simp), fun hall => ?_⟩
    rw [hbetween ys y zs rfl hops hall, ids_ofList]
    simp [names]
  · intro front anchor back horder hops hall
    rw [hbetween front anchor back horder hops hall, order_ofList]
  · intro hops
    refine ⟨allSucceed_iff_fresh hproper hops (by simp), fun hall => ?_⟩
    rw [run_places_none hproper hops hall, Op.foldl_widen, ids_ofList, order_ofList]
    simp [added, names]

/-- Seven calls of all four kinds around the only entry of a registry. -/
theorem ids_placed_around :
    let m : String → Middleware Unit Unit := fun id => ⟨id, fun _ => .finish (.ok ())⟩
    let r := ofList [m "m"]
    let ops : List (Op (Middleware Unit Unit)) :=
      [.insert (m "a1") "m" .after, .add (m "z1") .after, .insert (m "b1") "m" .before,
        .add (m "y1") .before, .insert (m "a2") "m" .after, .add (m "y2") .before,
        .insert (m "b2") "m" .before]
    r.ids = [] ++ "m" :: [] ∧ AllSucceed r ops ∧
    (run r ops).ids = ["y2", "y1", "b1", "b2", "m", "a2", "a1", "z1"] := by
  intro m r ops
  have hr : r ∈ ((Shelf.start : Shelf (Middleware Unit Unit)).run
      [.on (.add (m "m") .after)]).registries := List.mem_singleton.mpr rfl
  have hops : ∀ op ∈ ops, op.Places (some "m") := by simp [ops, Op.Places]
  obtain ⟨hsucceed, hids⟩ := (ids_placed _ r hr ops).1 [] "m" [] rfl hops
  have hall : AllSucceed r ops := hsucceed.mpr ⟨by decide, by decide⟩
  exact ⟨rfl, hall, hids hall⟩

end Registry

end OpStack
