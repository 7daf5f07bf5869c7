import OpStack.Proofs.Registry.Cut

/-!
# OpStack.Proofs.Registry.Roster

The registry against a machine on a plain list of entries:

1. a new entry is refused without an identifier, then with one that is taken;
2. `add` puts it at the front or at the back, `insert` next to its anchor, if there is
   one;
3. `swap` overwrites the cell of an entry, if there is one, unless the new entry has no
   identifier or one that another entry has;
4. `remove` deletes the cell of an entry, if there is one, and `clear` all cells.

`outcomes_eq_roster` says that the answers and the orders of a run are those of this
machine, that a failed operation leaves the registry as it was, and that every edit
fits the registry it is made on: a place is opened no further back than behind the last
one and under an identifier that is free.
-/

namespace OpStack

open Registry

variable {α : Type} [Identified α]

/-! ## The machine on lists -/

namespace Roster

/-- Why the entry cannot come to the list, if it cannot. -/
def refusal? (xs : List α) (entry : α) : Option Error :=
  if Identified.id entry = "" then some .emptyId
  else if Identified.id entry ∈ names xs then some (.duplicateId (Identified.id entry))
  else none

/-- Performs an operation on the list. -/
def perform (xs : List α) : Op α → Reply α × List α
  | .add entry position =>
    match refusal? xs entry with
    | some e => (.failed e, xs)
    | none => (.done, match position with
      | .before => entry :: xs
      | .after => xs ++ [entry])
  | .insert entry anchor position =>
    match refusal? xs entry with
    | some e => (.failed e, xs)
    | none => match cut? anchor xs with
      | none => (.failed (.anchorNotFound anchor), xs)
      | some (ys, x, zs) => (.done, match position with
        | .before => ys ++ entry :: x :: zs
        | .after => ys ++ x :: entry :: zs)
  | .swap id entry =>
    match cut? id xs with
    | none => (.failed (.notFound id), xs)
    | some (ys, old, zs) =>
      if Identified.id entry = "" then (.failed .emptyId, xs)
      else if Identified.id entry ≠ id ∧ Identified.id entry ∈ names xs then
        (.failed (.duplicateId (Identified.id entry)), xs)
      else (.entry old, ys ++ entry :: zs)
  | .remove id =>
    match cut? id xs with
    | none => (.failed (.notFound id), xs)
    | some (ys, old, zs) => (.entry old, ys ++ zs)
  | .clear => (.done, [])
  | .get id => (.found (xs.find? (Identified.id · == id)), xs)
  | .contains id => (.flag (decide (id ∈ names xs)), xs)
  | .size => (.size xs.length xs.isEmpty, xs)
  | .ids => (.ids (names xs), xs)
  | .order => (.order xs, xs)

/-- After every operation of a run: its answer, and the list. -/
def outcomes (xs : List α) : List (Op α) → List (Reply α × List α)
  | [] => []
  | op :: ops => perform xs op :: outcomes (perform xs op).2 ops

end Roster

namespace Registry

/-! ## Outcomes of the registry -/

/-- After every operation of a run: its answer, and the entries in order. -/
def outcomes (r : Registry α) : List (Op α) → List (Reply α × List α)
  | [] => []
  | op :: ops =>
    ((op.perform r).reply, (op.perform r).registry.order) :: outcomes (op.perform r).registry ops

/-- The edit is one that the registry has a place for; a new place comes under a new
identifier. -/
def Edit.Fits (r : Registry α) : Edit α → Prop
  | .place index key _ => index ≤ r.size ∧ key ∉ r.ids
  | .drop index | .fill index _ => index < r.size
  | .wipe => True

/-- Every edit fits the registry that the earlier ones left. -/
def AllFit : Registry α → List (Edit α) → Prop
  | _, [] => True
  | r, e :: es => e.Fits r ∧ AllFit (r.edit e) es

/-- The outcome of an operation on a registry is the one on the list. -/
structure Agrees (r : Registry α) (p : Performed α) (q : Reply α × List α) : Prop where
  reply : p.reply = q.1
  registry : p.registry = ofList q.2
  fit : AllFit r p.edits

/-- A refusal is the same on both sides and changes nothing. -/
theorem agrees_failed {β : Type} (xs : List α) (reply : β → Reply α) (e : Error) :
    Agrees (ofList xs) (.ofChange (ofList xs) reply (.error e)) (.failed e, xs) :=
  ⟨rfl, rfl, trivial⟩

/-- Reading changes nothing. -/
theorem agrees_read (xs : List α) (reply : Reply α) :
    Agrees (ofList xs) { reply, registry := ofList xs } (reply, xs) :=
  ⟨rfl, rfl, trivial⟩

/-- An entry that the list refuses is refused with the same error. -/
theorem newId_of_refusal {xs : List α} {entry : α} {e : Error}
    (h : Roster.refusal? xs entry = some e) : (ofList xs).newId entry = .error e := by
  unfold Roster.refusal? at h
  split at h
  · next hempty =>
      obtain rfl := Option.some.inj h
      simp [newId, hempty]
  · next hempty =>
      split at h
      · next hmem =>
          obtain rfl := Option.some.inj h
          simp [newId, hempty, hmem]
      · contradiction

/-- An entry that the list takes has a new identifier, and is registered under it. -/
theorem newId_of_no_refusal {xs : List α} {entry : α} (h : Roster.refusal? xs entry = none) :
    (ofList xs).newId entry = .ok (Identified.id entry) ∧ Identified.id entry ∉ names xs := by
  unfold Roster.refusal? at h
  split at h
  · contradiction
  · next hempty =>
      split at h
      · contradiction
      · next hmem => exact ⟨by simp [newId, hempty, hmem], hmem⟩

/-- Opening a place between `ys` and `zs` agrees with writing the entry there. -/
theorem agrees_place {β : Type} (ys zs : List α) (entry : α) (reply : β → Reply α) (value : β)
    (event : Event) (hnew : Identified.id entry ∉ names (ys ++ zs)) :
    Agrees (ofList (ys ++ zs))
      (.ofChange (ofList (ys ++ zs)) reply
        (.ok ⟨value, [.place ys.length (Identified.id entry) entry], event⟩))
      (reply value, ys ++ entry :: zs) := by
  refine ⟨rfl, placeAt_append ys zs entry, ?_, trivial⟩
  rw [Edit.Fits, size_ofList, ids_ofList, List.length_append]
  exact ⟨Nat.le_add_right _ _, hnew⟩

/-- Taking a place away and opening it again for an entry with another identifier agrees
with overwriting the cell. -/
theorem agrees_replace (ys zs : List α) (old entry : α) (event : Event)
    (hnew : Identified.id entry ∉ names (ys ++ old :: zs)) :
    Agrees (ofList (ys ++ old :: zs))
      (.ofChange (ofList (ys ++ old :: zs)) .entry
        (.ok ⟨old, [.drop ys.length, .place ys.length (Identified.id entry) entry], event⟩))
      (.entry old, ys ++ entry :: zs) := by
  have hdrop : (ofList (ys ++ old :: zs)).edit (.drop ys.length) = ofList (ys ++ zs) :=
    dropAt_append ys zs old
  have hrest : Identified.id entry ∉ names (ys ++ zs) := by
    intro h
    apply hnew
    rw [names_append] at h ⊢
    rcases List.mem_append.mp h with hl | hr
    · exact List.mem_append_left _ hl
    · exact List.mem_append_right _ (List.mem_cons_of_mem _ hr)
  refine ⟨rfl, ?_, ?_, ?_, trivial⟩
  · show ((ofList (ys ++ old :: zs)).edit (.drop ys.length)).placeAt _ _ _ = _
    rw [hdrop, placeAt_append]
  · simp [Edit.Fits]
  · rw [hdrop, Edit.Fits, size_ofList, ids_ofList, List.length_append]
    exact ⟨Nat.le_add_right _ _, hrest⟩

/-! ## One operation -/

/-- An addition agrees with the list: refused for the same identifiers, done at the same end. -/
theorem agrees_add (xs : List α) (entry : α) (position : Position) :
    Agrees (ofList xs) (Op.perform (ofList xs) (.add entry position))
      (Roster.perform xs (.add entry position)) := by
  cases hr : Roster.refusal? xs entry with
  | some e =>
      have hadd : (ofList xs).add entry position = .error e := by
        unfold add
        rw [newId_of_refusal hr]
        rfl
      simp only [Op.perform, Roster.perform, hadd, hr]
      exact agrees_failed xs _ e
  | none =>
      obtain ⟨hid, hnew⟩ := newId_of_no_refusal hr
      cases position with
      | before =>
          have hadd : (ofList xs).add entry .before = .ok ⟨(),
              [.place 0 (Identified.id entry) entry], .added (Identified.id entry) .before⟩ := by
            rw [add, hid]; rfl
          simp only [Op.perform, Roster.perform, hadd, hr]
          exact agrees_place [] xs entry _ () _ hnew
      | after =>
          have hadd : (ofList xs).add entry .after = .ok ⟨(),
              [.place xs.length (Identified.id entry) entry],
              .added (Identified.id entry) .after⟩ := by
            rw [add, hid, ← size_ofList xs]; rfl
          simp only [Op.perform, Roster.perform, hadd, hr]
          have hplace := agrees_place xs [] entry (fun _ : Unit => Reply.done) ()
            (.added (Identified.id entry) .after) (by rwa [List.append_nil])
          rwa [List.append_nil] at hplace

/-- An insertion agrees with the list, whichever of its faults comes first. -/
theorem agrees_insert (xs : List α) (entry : α) (anchor : String) (position : Position) :
    Agrees (ofList xs) (Op.perform (ofList xs) (.insert entry anchor position))
      (Roster.perform xs (.insert entry anchor position)) := by
  cases hr : Roster.refusal? xs entry with
  | some e =>
      have hinsert : (ofList xs).insert entry anchor position = .error e := by
        rw [insert, newId_of_refusal hr]; rfl
      simp only [Op.perform, Roster.perform, hinsert, hr]
      exact agrees_failed xs _ e
  | none =>
      obtain ⟨hid, hnew⟩ := newId_of_no_refusal hr
      cases hc : cut? anchor xs with
      | none =>
          have hi := indexOf?_eq_none (cut?_eq_none_iff.mp hc)
          have hinsert : (ofList xs).insert entry anchor position =
              .error (.anchorNotFound anchor) := by
            rw [insert, hid, hi]; rfl
          simp only [Op.perform, Roster.perform, hinsert, hr, hc]
          exact agrees_failed xs _ _
      | some c =>
          obtain ⟨ys, x, zs⟩ := c
          obtain ⟨rfl, hx, hys⟩ := cut?_eq_some hc
          have hi := indexOf?_append zs hx hys
          cases position with
          | before =>
              have hinsert : (ofList (ys ++ x :: zs)).insert entry anchor .before = .ok ⟨(),
                  [.place ys.length (Identified.id entry) entry],
                  .inserted (Identified.id entry) anchor .before⟩ := by
                rw [insert, hid, hi]; rfl
              simp only [Op.perform, Roster.perform, hinsert, hr, hc]
              exact agrees_place ys (x :: zs) entry _ () _ hnew
          | after =>
              -- behind the anchor is behind the list that ends in it
              have hinsert : (ofList (ys ++ x :: zs)).insert entry anchor .after = .ok ⟨(),
                  [.place (ys ++ [x]).length (Identified.id entry) entry],
                  .inserted (Identified.id entry) anchor .after⟩ := by
                rw [insert, hid, hi, List.length_append]; rfl
              simp only [Op.perform, Roster.perform, hinsert, hr, hc]
              have hsplit : ys ++ x :: zs = (ys ++ [x]) ++ zs := by simp
              have hplace := agrees_place (ys ++ [x]) zs entry (fun _ : Unit => Reply.done) ()
                (.inserted (Identified.id entry) anchor .after) (by rwa [← hsplit])
              rwa [← hsplit, List.append_assoc] at hplace

/-- A swap agrees with the list, also where it renames the entry. -/
theorem agrees_swap (xs : List α) (id : String) (entry : α) :
    Agrees (ofList xs) (Op.perform (ofList xs) (.swap id entry))
      (Roster.perform xs (.swap id entry)) := by
  cases hc : cut? id xs with
  | none =>
      have hi := indexOf?_eq_none (cut?_eq_none_iff.mp hc)
      have hswap : (ofList xs).swap id entry = .error (.notFound id) := by
        rw [swap, hi]
      simp only [Op.perform, Roster.perform, hswap, hc]
      exact agrees_failed xs _ _
  | some c =>
      obtain ⟨ys, old, zs⟩ := c
      obtain ⟨rfl, hold, hys⟩ := cut?_eq_some hc
      have hi := indexOf?_append zs hold hys
      have hg := get?_append zs hold hys
      simp only [Op.perform, swap, hi, hg, Roster.perform, hc]
      by_cases hempty : Identified.id entry = ""
      · rw [if_pos hempty, if_pos hempty]
        exact agrees_failed _ _ _
      · rw [if_neg hempty, if_neg hempty]
        by_cases hsame : Identified.id entry = id
        · -- the place keeps its identifier and is filled
          rw [if_pos hsame, if_neg (fun h => h.1 hsame)]
          refine ⟨rfl, fillAt_append ys zs (hsame.trans hold.symm), ?_, trivial⟩
          simp [Edit.Fits]
        · rw [if_neg hsame, contains_ofList]
          by_cases hmem : Identified.id entry ∈ names (ys ++ old :: zs)
          · rw [if_pos (decide_eq_true hmem), if_pos ⟨hsame, hmem⟩]
            exact agrees_failed _ _ _
          · rw [if_neg (by simpa using hmem), if_neg (fun h => hmem h.2)]
            exact agrees_replace ys zs old entry _ hmem

/-- A removal agrees with the list. -/
theorem agrees_remove (xs : List α) (id : String) :
    Agrees (ofList xs) (Op.perform (ofList xs) (.remove id)) (Roster.perform xs (.remove id)) := by
  cases hc : cut? id xs with
  | none =>
      have hi := indexOf?_eq_none (cut?_eq_none_iff.mp hc)
      have hremove : (ofList xs).remove id = .error (.notFound id) := by
        rw [remove, hi]
      simp only [Op.perform, Roster.perform, hremove, hc]
      exact agrees_failed xs _ _
  | some c =>
      obtain ⟨ys, old, zs⟩ := c
      obtain ⟨rfl, hold, hys⟩ := cut?_eq_some hc
      have hi := indexOf?_append zs hold hys
      have hg := get?_append zs hold hys
      simp only [Op.perform, remove, hi, hg, Roster.perform, hc]
      refine ⟨rfl, dropAt_append ys zs old, ?_, trivial⟩
      simp [Edit.Fits]

/-- Every operation does on a registry what it does on its list. -/
theorem agrees_perform (xs : List α) (op : Op α) :
    Agrees (ofList xs) (op.perform (ofList xs)) (Roster.perform xs op) := by
  cases op with
  | add entry position => exact agrees_add xs entry position
  | insert entry anchor position => exact agrees_insert xs entry anchor position
  | swap id entry => exact agrees_swap xs id entry
  | remove id => exact agrees_remove xs id
  | clear => exact ⟨rfl, rfl, trivial, trivial⟩
  | get id =>
      simp only [Op.perform, Roster.perform, get?_ofList]
      exact agrees_read xs _
  | contains id =>
      simp only [Op.perform, Roster.perform, contains_ofList]
      exact agrees_read xs _
  | size =>
      simp only [Op.perform, Roster.perform, size_ofList, isEmpty_ofList]
      exact agrees_read xs _
  | ids =>
      simp only [Op.perform, Roster.perform, ids_ofList]
      exact agrees_read xs _
  | order =>
      simp only [Op.perform, Roster.perform, order_ofList]
      exact agrees_read xs _

/-! ## Runs -/

/-- Whatever is done to it, the registry stays one that its entries determine. -/
theorem run_ofList (xs : List α) (ops : List (Op α)) : ∃ ys, run (ofList xs) ops = ofList ys := by
  induction ops generalizing xs with
  | nil => exact ⟨xs, rfl⟩
  | cons op ops ih =>
      obtain ⟨ys, hys⟩ := ih (Roster.perform xs op).2
      refine ⟨ys, ?_⟩
      rw [← hys, ← (agrees_perform xs op).registry]
      rfl

/-- A run gives the outcomes of its list. -/
theorem outcomes_ofList (xs : List α) (ops : List (Op α)) :
    outcomes (ofList xs) ops = Roster.outcomes xs ops := by
  induction ops generalizing xs with
  | nil => rfl
  | cons op ops ih =>
      have hop := agrees_perform xs op
      rw [outcomes, Roster.outcomes, hop.reply, hop.registry, order_ofList, ih]

/-- What an operation does to a registry is what its edits do. -/
theorem registry_eq_edited (r : Registry α) (op : Op α) :
    (op.perform r).registry = r.edited (op.perform r).edits := by
  have hchange : ∀ {β : Type} (reply : β → Reply α) (c : Except Error (Change α β)),
      (Performed.ofChange r reply c).registry =
        r.edited (Performed.ofChange r reply c).edits := by
    intro β reply c
    cases c <;> rfl
  cases op with
  | add | insert | swap | remove | clear => exact hchange _ _
  | get | contains | size | ids | order => rfl

/-- An operation that fails leaves the registry as it was. -/
theorem registry_of_failed {r : Registry α} {op : Op α} {e : Error}
    (h : (op.perform r).reply = .failed e) : (op.perform r).registry = r := by
  have hchange : ∀ {β : Type} (reply : β → Reply α) (c : Except Error (Change α β)),
      (∀ b, reply b ≠ .failed e) → (Performed.ofChange r reply c).reply = .failed e →
      (Performed.ofChange r reply c).registry = r := by
    intro β reply c hreply hfail
    cases c with
    | ok c => exact absurd hfail (hreply c.value)
    | error e => rfl
  cases op with
  | add | insert | swap | remove | clear => exact hchange _ _ (by simp) h
  | get | contains | size | ids | order => rfl

/-- **Runs from the empty registry.**  After every operation the answer and the order
are those of the machine on lists.  Whatever was done before, a failed operation leaves
the registry as it was, and an operation changes it by edits that fit it. -/
theorem outcomes_eq_roster (ops : List (Op α)) :
    outcomes ∅ ops = Roster.outcomes [] ops ∧
    ∀ op : Op α,
      ((∃ e, (op.perform (run ∅ ops)).reply = .failed e) →
        (op.perform (run ∅ ops)).registry = run ∅ ops) ∧
      (op.perform (run ∅ ops)).registry = (run ∅ ops).edited (op.perform (run ∅ ops)).edits ∧
      AllFit (run ∅ ops) (op.perform (run ∅ ops)).edits := by
  refine ⟨outcomes_ofList [] ops, fun op => ⟨?_, ?_, ?_⟩⟩
  · rintro ⟨e, he⟩
    exact registry_of_failed he
  · exact registry_eq_edited _ op
  · obtain ⟨ys, hys⟩ := run_ofList [] ops
    rw [ofList_nil] at hys
    rw [hys]
    exact (agrees_perform ys op).fit

end Registry

end OpStack
