import OpStack.Proofs.Context.Family
import OpStack.Value.Basic

/-!
# OpStack.Proofs.Context.Extensions

Extensions are one cell per type, and each context has its own.

* `Extensions.Typed`: every cell is of the type it stands under.  All changes keep this, and with
  it the contents are the cells (`Typed.value?_eq`).
* `Op.fill`: what an operation makes of one cell of one context (`Performed.cell?_eq`).
* `Present` and `Stored`: what a run has put into a cell and not taken out since, told by the
  operations alone.

`cells_by_type` ties all ways to read an extension to the last operation that stored it.
-/

namespace OpStack

section

variable [Payloads]

/-! ## Cells -/

namespace Extensions

/-- Every cell is of the type it stands under. -/
def Typed (x : Extensions) : Prop := ∀ cell ∈ x.cells, cell.2.kind = cell.1

variable {x : Extensions}

/-- Without cells nothing can be of a wrong type. -/
theorem typed_empty : Typed ∅ := by
  intro cell h
  exact absurd h List.not_mem_nil

theorem Typed.erase (h : x.Typed) (k : Payload.Kind) : (x.erase k).Typed :=
  fun cell hcell => h cell (List.mem_filter.mp hcell).1

/-- A content is stored under its own type. -/
theorem Typed.set (h : x.Typed) (k : Payload.Kind) (content : k.Content) : (x.set k content).Typed := by
  intro cell hcell
  rcases List.mem_cons.mp hcell with rfl | hold
  · exact Payload.kind_of k content
  · exact h.erase k cell hold

theorem Typed.setValue (h : x.Typed) (v : Payload) : (x.setValue v).Typed := h.set _ _

/-- To write over a payload keeps its type. -/
theorem Typed.writeValue (h : x.Typed) (v : Payload) : (x.writeValue v).Typed := by
  unfold Extensions.writeValue modify
  split
  · exact h.set _ _
  · exact h

/-- A cell that is found has the type that was looked for. -/
theorem Typed.kind_of_cell? (h : x.Typed) {k : Payload.Kind} {v : Payload} (hv : x.cell? k = some v) :
    v.kind = k := by
  obtain ⟨front, back, heq, -⟩ := List.lookup_eq_some_iff.mp hv
  exact h (k, v) (by simp [heq])

/-- Narrowing to the type of the cell never fails. -/
theorem Typed.value?_eq (h : x.Typed) (k : Payload.Kind) : x.value? k = x.cell? k := by
  rw [value?, get?]
  cases hv : x.cell? k with
  | none => rfl
  | some v =>
      obtain rfl := h.kind_of_cell? hv
      simp

/-- The cell that is taken away is empty, the others stay. -/
theorem cell?_erase (x : Extensions) (k j : Payload.Kind) :
    (x.erase k).cell? j = if k = j then none else x.cell? j := by
  split
  · next h => rw [h, cell?_erase_self]
  · next h => exact x.cell?_erase_of_ne (Ne.symm h)

/-- The cell of a payload holds it, the others stay. -/
theorem cell?_setValue (x : Extensions) (v : Payload) (k : Payload.Kind) :
    (x.setValue v).cell? k = if v.kind = k then some v else x.cell? k := by
  split
  · next h =>
      subst h
      simp [setValue, Extensions.set, cell?]
  · next h => exact x.cell?_set_of_ne _ (Ne.symm h)

/-- Writing reaches a cell that is there, and makes none. -/
theorem Typed.cell?_writeValue (h : x.Typed) (v : Payload) (k : Payload.Kind) :
    (x.writeValue v).cell? k = if v.kind = k then (x.cell? k).map fun _ => v else x.cell? k := by
  have hget : x.get? v.kind = none ↔ x.cell? v.kind = none := by
    rw [← h.value?_eq, value?, Option.map_eq_none_iff]
  unfold Extensions.writeValue modify
  cases hv : x.get? v.kind with
  | none =>
      have hcell := hget.mp hv
      grind
  | some content =>
      have hcell : x.cell? v.kind ≠ none := fun hnone => by simp [hget.mpr hnone] at hv
      have hset := x.cell?_setValue v k
      rw [Extensions.setValue] at hset
      obtain ⟨old, hold⟩ := Option.ne_none_iff_exists'.mp hcell
      grind

end Extensions

namespace Context.Family

/-! ## One operation -/

/-- What is read at type `k` in the context with the number. -/
def value? (f : Family) (i : Nat) (k : Payload.Kind) : Option Payload :=
  f.contexts[i]?.bind (·.extensions.value? k)

/-- The cell of type `k` in the context with the number, whatever it holds. -/
def cell? (f : Family) (i : Nat) (k : Payload.Kind) : Option Payload :=
  f.contexts[i]?.bind (·.extensions.cell? k)

/-- The cells of all contexts are of the types they stand under. -/
def Typed (f : Family) : Prop := ∀ c ∈ f.contexts, c.extensions.Typed

/-- What an operation makes of the cell of type `k` in context `i`. -/
def Op.fill (i : Nat) (k : Payload.Kind) (held : Option Payload) : Op → Option Payload
  | .set j v => if j = i ∧ v.kind = k then some v else held
  | .write j v => if j = i ∧ v.kind = k then held.map fun _ => v else held
  | .remove j l => if j = i ∧ l = k then none else held
  | _ => held

/-- The operation is one on the cell of type `k` in context `i`. -/
def Op.Touches (i : Nat) (k : Payload.Kind) : Op → Prop
  | .set j v | .write j v => j = i ∧ v.kind = k
  | .remove j l => j = i ∧ l = k
  | _ => False

instance (i : Nat) (k : Payload.Kind) : DecidablePred (Op.Touches i k)
  | .set j v | .write j v => inferInstanceAs (Decidable (j = i ∧ v.kind = k))
  | .remove j l => inferInstanceAs (Decidable (j = i ∧ l = k))
  | .new | .clone _ | .get _ _ | .has _ _ | .handle _ | .cloneHandle _ | .cancel _
  | .isCancelled _ | .timeout _ _ | .deadline _ _ | .readDeadline _ | .clock _ =>
    inferInstanceAs (Decidable False)

/-- Whoever does not touch the cell leaves it. -/
theorem Op.fill_of_not_touches {i : Nat} {k : Payload.Kind} {op : Op} (h : ¬ op.Touches i k)
    (held : Option Payload) : op.fill i k held = held := by
  cases op <;> simp_all [fill, Touches]

variable {f g : Family} {op : Op}

/-- Read back through its type, a cell says what it holds. -/
theorem Typed.value?_eq (h : f.Typed) (i : Nat) (k : Payload.Kind) : f.value? i k = f.cell? i k := by
  rw [value?, cell?]
  cases hc : f.contexts[i]? with
  | none => rfl
  | some c => exact (h c (List.mem_of_getElem? hc)).value?_eq k

/-- A change that stores all payloads under their types does so in the family. -/
theorem Typed.put (h : f.Typed) {i : Nat} {c : Context} (hc : c.extensions.Typed) :
    (f.put i c).Typed := by
  intro d hd
  rcases List.mem_or_eq_of_mem_set hd with hold | rfl
  · exact h d hold
  · exact hc

/-- A further context starts without extensions. -/
theorem Typed.append (h : f.Typed) {c : Context} (hc : c.extensions = ∅) {families : Nat} :
    Typed { f with contexts := f.contexts ++ [c], families } := by
  intro d hd
  rcases List.mem_append.mp hd with hold | hnew
  · exact h d hold
  · rw [List.mem_singleton.mp hnew, hc]
    exact Extensions.typed_empty

/-- Every operation stores payloads under their types. -/
theorem Performed.typed (hp : f.Performed op g) (h : f.Typed) : g.Typed := by
  cases hp with
  | new => exact h.append rfl
  | clone hc => exact h.append rfl
  | set hc => exact h.put ((h _ (List.mem_of_getElem? hc)).setValue _)
  | write hc => exact h.put ((h _ (List.mem_of_getElem? hc)).writeValue _)
  | remove hc => exact h.put ((h _ (List.mem_of_getElem? hc)).erase _)
  | timeout hc | deadline hc => exact h.put (h _ (List.mem_of_getElem? hc) :)
  | handle | cloneHandle | cancel | read => exact h

/-- A change to a context shows in its own cells. -/
theorem cell?_put {i : Nat} {c d : Context} (hc : f.contexts[i]? = some c) (j : Nat) (k : Payload.Kind) :
    (f.put i d).cell? j k = if i = j then d.extensions.cell? k else f.cell? j k := by
  rw [cell?, getElem?_contexts_put hc]
  split <;> rfl

/-- Where the change of a context in its place changes the cell under the condition `P`. -/
theorem cell?_put_of_changed {i : Nat} {c d : Context} (hc : f.contexts[i]? = some c) {k : Payload.Kind}
    (P : Prop) [Decidable P] (change : Option Payload → Option Payload)
    (hd : d.extensions.cell? k =
      if P then change (c.extensions.cell? k) else c.extensions.cell? k) (j : Nat) :
    (f.put i d).cell? j k = if i = j ∧ P then change (f.cell? j k) else f.cell? j k := by
  rw [cell?_put hc, hd, ite_and]
  split
  · next hij => rw [← hij, cell?, hc, Option.bind_some]
  · rfl

/-- A context that is added has no cells, like one that is not there. -/
theorem cell?_append {c : Context} (hc : c.extensions = ∅) {families : Nat} (j : Nat) (k : Payload.Kind) :
    cell? { f with contexts := f.contexts ++ [c], families } j k = f.cell? j k := by
  simp only [cell?, List.getElem?_append]
  split
  · rfl
  · next h =>
      have hnone : f.contexts[j]? = none := List.getElem?_eq_none (by omega)
      rw [hnone]
      cases hj : [c][j - f.contexts.length]? with
      | none => rfl
      | some d =>
          obtain rfl := List.mem_singleton.mp (List.mem_of_getElem? hj)
          rw [Option.bind_some, hc]
          rfl

/-- An operation changes a cell as it says, and leaves those of other types and contexts. -/
theorem Performed.cell?_eq (hp : f.Performed op g) (h : f.Typed) (i : Nat) (k : Payload.Kind) :
    g.cell? i k = op.fill i k (f.cell? i k) := by
  cases hp with
  | new => exact cell?_append rfl i k
  | clone hc => exact cell?_append rfl i k
  | set hc => exact cell?_put_of_changed hc _ (fun _ => some _) (Extensions.cell?_setValue _ _ _) i
  | write hc =>
      have hcell := (h _ (List.mem_of_getElem? hc)).cell?_writeValue
      exact cell?_put_of_changed hc _ (Option.map fun _ => _) (hcell _ k) i
  | remove hc => exact cell?_put_of_changed hc _ (fun _ => none) (Extensions.cell?_erase _ _ _) i
  | timeout hc | deadline hc =>
      rw [cell?_put hc, Op.fill_of_not_touches id]
      split
      · next hij => rw [← hij, cell?, hc, Option.bind_some]
      · rfl
  | handle | cloneHandle | cancel => rfl
  | read hop => cases op <;> simp_all [Op.Reads, Op.fill]

/-- All ways to look at a type in a context find the same. -/
theorem Typed.looks (h : f.Typed) {i : Nat} {c : Context} (hc : f.contexts[i]? = some c)
    (k : Payload.Kind) :
    f.perform (.get i k) = .ok (.found (f.value? i k), f) ∧
    f.perform (.has i k) = .ok (.flag (f.value? i k).isSome, f) ∧
    (∃ g, f.perform (.remove i k) = .ok (.found (f.value? i k), g)) ∧
    ∀ v, v.kind = k → ∃ g, f.perform (.write i v) = .ok (.found (f.value? i k), g) := by
  have hvalue : f.value? i k = c.extensions.value? k := by rw [value?, hc, Option.bind_some]
  have hcell : c.extensions.value? k = c.extensions.cell? k :=
    (h c (List.mem_of_getElem? hc)).value?_eq k
  refine ⟨?_, ?_, ?_, fun v hv => ?_⟩
  · rw [perform, context_eq_ok hc, hvalue]; rfl
  · rw [perform, context_eq_ok hc, hvalue, hcell]; rfl
  · refine ⟨f.put i { c with extensions := c.extensions.erase k }, ?_⟩
    rw [perform, context_eq_ok hc, hvalue]; rfl
  · refine ⟨f.put i { c with extensions := c.extensions.writeValue v }, ?_⟩
    rw [perform, context_eq_ok hc, hvalue, ← hv]; rfl

/-- A clone starts with nothing, and the others stay as they are. -/
theorem Typed.exists_clone (h : f.Typed) {i : Nat} {c : Context} (hc : f.contexts[i]? = some c) :
    ∃ g, f.perform (.clone i) = .ok (.cloned f.contexts.length true, g) ∧
      (∀ k, g.value? f.contexts.length k = none) ∧
      ∀ j < f.contexts.length, g.contexts[j]? = f.contexts[j]? := by
  have hclone : f.perform (.clone i) = .ok (.cloned f.contexts.length true,
      { f with contexts := f.contexts ++ [c.clone] }) := by
    rw [perform, context_eq_ok hc]; rfl
  have hp := performed_of_ok hclone
  refine ⟨_, hclone, fun k => ?_, fun j hj => List.getElem?_append_left hj⟩
  have hnone : f.contexts[f.contexts.length]? = none := List.getElem?_eq_none (Nat.le_refl _)
  rw [(hp.typed h).value?_eq, hp.cell?_eq h, Op.fill_of_not_touches id, cell?, hnone,
    Option.bind_none]

/-! ## Runs -/

/-- Something of type `k` was set in context `i`, and nothing of this type removed since. -/
def Present (i : Nat) (k : Payload.Kind) : List Op → Prop :=
  Lasting (fun _ op => ∃ v, op = .set i v ∧ v.kind = k) (· ≠ .remove i k)

/-- The payload was set in context `i`, or written over what was there, and nothing of its type was
set, written or removed there since. -/
def Stored (i : Nat) (v : Payload) : List Op → Prop :=
  Lasting (fun before op => op = .set i v ∨ op = .write i v ∧ Present i v.kind before)
    (¬ Op.Touches i v.kind ·)

/-- What a run leaves in a cell. -/
theorem typed_and_cell?_of_after {ops : List Op} (h : after ops = .ok f) :
    f.Typed ∧ ∀ i k, f.cell? i k = ops.foldl (fun held op => op.fill i k held) none := by
  refine after_induction (P := fun ops f => f.Typed ∧ ∀ i k,
    f.cell? i k = ops.foldl (fun held op => op.fill i k held) none) ⟨?_, ?_⟩ ?_ h
  · intro c hc
    rw [List.mem_singleton.mp hc]
    exact Extensions.typed_empty
  · intro i k
    cases i <;> rfl
  · rintro ops f op g ⟨htyped, hcells⟩ hp
    refine ⟨hp.typed htyped, fun i k => ?_⟩
    rw [hp.cell?_eq htyped, hcells, List.foldl_append, List.foldl_cons, List.foldl_nil]

/-- A cell is filled if it was set, or was filled and is not emptied. -/
theorem isSome_fill (i : Nat) (k : Payload.Kind) (held : Option Payload) (op : Op) :
    (op.fill i k held).isSome ↔
      (∃ v, op = .set i v ∧ v.kind = k) ∨ (op ≠ .remove i k ∧ held.isSome) := by
  cases op <;> simp only [Op.fill] <;> grind

/-- A cell is there if something was set and not removed since. -/
theorem isSome_foldl_fill (i : Nat) (k : Payload.Kind) (ops : List Op) :
    (ops.foldl (fun held op => op.fill i k held) none).isSome ↔ Present i k ops := by
  induction ops using List.reverseRecOn with
  | nil => simpa [Present] using lasting_nil
  | append_singleton ops op ih =>
      rw [List.foldl_append, List.foldl_cons, List.foldl_nil, isSome_fill, ih, Present,
        lasting_concat]

/-- A cell holds the payload if it was written to it, or held before and left alone. -/
theorem fill_eq_some_iff (i : Nat) (v : Payload) (held : Option Payload) (op : Op) :
    op.fill i v.kind held = some v ↔
      (op = .set i v ∨ op = .write i v ∧ held.isSome) ∨
        (¬ op.Touches i v.kind ∧ held = some v) := by
  cases held <;> cases op <;> simp only [Op.fill, Op.Touches] <;> grind

/-- A cell holds what was stored last. -/
theorem foldl_fill_eq_some_iff (i : Nat) (v : Payload) (ops : List Op) :
    ops.foldl (fun held op => op.fill i v.kind held) none = some v ↔ Stored i v ops := by
  induction ops using List.reverseRecOn with
  | nil => simpa [Stored] using lasting_nil
  | append_singleton ops op ih =>
      rw [List.foldl_append, List.foldl_cons, List.foldl_nil, fill_eq_some_iff, ih,
        isSome_foldl_fill, Stored, lasting_concat]

/-- Only the operations on the cell matter to it. -/
theorem foldl_fill_filter (i : Nat) (k : Payload.Kind) (ops : List Op) :
    (ops.filter (·.Touches i k)).foldl (fun held op => op.fill i k held) none =
      ops.foldl (fun held op => op.fill i k held) none := by
  rw [List.foldl_filter]
  congr 1
  funext held op
  split
  · rfl
  · next h => exact (op.fill_of_not_touches (by simpa using h) held).symm

/-- **Extensions are one cell per type.**  After every run on any number of contexts,

1. what is read at a type in a context is the payload of that type that was set there last, or
   written last over one that was there, unless it was removed since;
2. all ways to look agree: reading, asking, removing and writing in place find the same, and they
   find something exactly if something was set and not removed since;
3. every cell is of the type it stands under, so narrowing to that type never fails;
4. operations on other types and other contexts do not matter: runs that have the same operations
   on a cell, in the same order, leave the same in it;
5. a clone starts with nothing and leaves all other contexts as they are. -/
theorem cells_by_type {ops : List Op} {f : Family} (h : after ops = .ok f) :
    (∀ i k v, f.value? i k = some v ↔ v.kind = k ∧ Stored i v ops) ∧
    (∀ i k, i < f.contexts.length →
      f.perform (.get i k) = .ok (.found (f.value? i k), f) ∧
      f.perform (.has i k) = .ok (.flag (f.value? i k).isSome, f) ∧
      (∃ g, f.perform (.remove i k) = .ok (.found (f.value? i k), g)) ∧
      (∀ v, v.kind = k → ∃ g, f.perform (.write i v) = .ok (.found (f.value? i k), g)) ∧
      ((f.value? i k).isSome ↔ Present i k ops)) ∧
    (∀ c ∈ f.contexts, c.extensions.Typed) ∧
    (∀ others g i k, after others = .ok g →
      ops.filter (·.Touches i k) = others.filter (·.Touches i k) → f.value? i k = g.value? i k) ∧
    ∀ i, i < f.contexts.length → ∃ g,
      f.perform (.clone i) = .ok (.cloned f.contexts.length true, g) ∧
      after (ops ++ [.clone i]) = .ok g ∧ (∀ k, g.value? f.contexts.length k = none) ∧
      ∀ j < f.contexts.length, g.contexts[j]? = f.contexts[j]? := by
  obtain ⟨htyped, hcells⟩ := typed_and_cell?_of_after h
  refine ⟨fun i k v => ?_, fun i k hi => ?_, htyped, fun others g i k hg hsame => ?_,
    fun i hi => ?_⟩
  · rw [htyped.value?_eq]
    constructor
    · intro hv
      obtain ⟨c, hc, hcell⟩ := Option.bind_eq_some_iff.mp hv
      obtain rfl := (htyped c (List.mem_of_getElem? hc)).kind_of_cell? hcell
      exact ⟨rfl, (foldl_fill_eq_some_iff i v ops).mp (hcells i v.kind ▸ hv)⟩
    · rintro ⟨rfl, hstored⟩
      rw [hcells, foldl_fill_eq_some_iff]
      exact hstored
  · obtain ⟨hget, hhas, hremove, hwrite⟩ := htyped.looks (List.getElem?_eq_getElem hi) k
    refine ⟨hget, hhas, hremove, hwrite, ?_⟩
    rw [htyped.value?_eq, hcells, isSome_foldl_fill]
  · obtain ⟨htyped', hcells'⟩ := typed_and_cell?_of_after hg
    rw [htyped.value?_eq, htyped'.value?_eq, hcells, hcells', ← foldl_fill_filter, hsame,
      foldl_fill_filter]
  · obtain ⟨g, hclone, hempty, hothers⟩ := htyped.exists_clone (List.getElem?_eq_getElem hi)
    exact ⟨g, hclone, after_concat_of_ok h hclone, hempty, hothers⟩

end Context.Family

end

namespace Context.Family

/-- A clone is made between two writes, and what is put into it does not reach the source. -/
theorem cells_by_type_beside_clone :
    let ops : List Op := [.set 0 (.u32 1), .set 0 (.string "a"), .clone 0, .set 1 (.u32 7),
      .write 0 (.u32 2), .remove 1 .u32, .write 1 (.string "b")]
    ∃ f, after ops = .ok f ∧ f.value? 0 .u32 = some (.u32 2) ∧
      f.value? 0 .string = some (.string "a") ∧ f.value? 1 .string = none := by
  intro ops
  have hf : after ops = .ok _ := rfl
  obtain ⟨hread, hlook, -⟩ := cells_by_type hf
  refine ⟨_, hf, ?_, ?_, ?_⟩
  · exact (hread 0 .u32 (.u32 2)).mpr ⟨rfl, ops.take 4, .write 0 (.u32 2), ops.drop 5, rfl,
      .inr ⟨rfl, [], _, _, rfl, ⟨_, rfl, rfl⟩, by simp⟩, by decide⟩
  · exact (hread 0 .string (.string "a")).mpr
      ⟨rfl, ops.take 1, _, ops.drop 2, rfl, .inl rfl, by decide⟩
  · have habsent : ¬ Present 1 Kind.string ops := by
      rintro ⟨before, op, later, hops, ⟨v, rfl, hv⟩, -⟩
      have hmem : Op.set 1 v ∈ ops := by simp [hops]
      obtain rfl : v = Value.u32 7 := by simpa [ops] using hmem
      exact absurd hv (by decide)
    obtain ⟨-, -, -, -, hpresent⟩ := hlook 1 Kind.string (by decide)
    exact Option.not_isSome_iff_eq_none.mp (fun hsome => habsent (hpresent.mp hsome))

end Context.Family

end OpStack
