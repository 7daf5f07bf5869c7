import OpStack.Proofs.Document.Grammar

/-!
# OpStack.Proofs.Document.Reordering

The same value with the members of its tables in another order, at any depth (`Reordered`).

A table then has the same names, each as often, and for each of its members the other table has one
of the same name whose value is the same up to order (`Reordered.table`).
-/

namespace OpStack.Document.Json

/-- The same up to the order of members. -/
inductive Reordered : Tree → Tree → Prop
  | refl (t : Tree) : Reordered t t
  | trans {t u v : Tree} (h : Reordered t u) (h' : Reordered u v) : Reordered t v
  | members {ms ns : List (String × Tree)} (h : ms.Perm ns) : Reordered (.table ms) (.table ns)
  | member {before behind : List (String × Tree)} {name : String} {t u : Tree}
    (h : Reordered t u) :
    Reordered (.table (before ++ (name, t) :: behind)) (.table (before ++ (name, u) :: behind))
  | item {before behind : List Tree} {t u : Tree} (h : Reordered t u) :
    Reordered (.list (before ++ t :: behind)) (.list (before ++ u :: behind))

namespace Reordered

/-- What is a reordering is one both ways. -/
theorem symm {t u : Tree} (h : Reordered t u) : Reordered u t := by
  induction h with
  | refl t => exact .refl t
  | trans _ _ ih ih' => exact ih'.trans ih
  | members h => exact .members h.symm
  | member _ ih => exact .member ih
  | item _ ih => exact .item ih

/-- What is neither list nor table is just the same. -/
theorem eq_of_scalar {t u : Tree} (h : Reordered t u) (hlist : ∀ items, t ≠ .list items)
    (htable : ∀ ms, t ≠ .table ms) : u = t := by
  induction h with
  | refl t => rfl
  | trans _ _ ih ih' =>
      obtain rfl := ih hlist htable
      exact ih' hlist htable
  | members _ => exact absurd rfl (htable _)
  | member _ _ => exact absurd rfl (htable _)
  | item _ _ => exact absurd rfl (hlist _)

/-- A list stays a list. -/
theorem list {t u : Tree} (h : Reordered t u) {items : List Tree} (ht : t = .list items) :
    ∃ others, u = .list others := by
  induction h generalizing items with
  | refl t => exact ⟨items, ht⟩
  | trans _ _ ih ih' =>
      obtain ⟨others, hothers⟩ := ih ht
      exact ih' hothers
  | members _ => cases ht
  | member _ _ => cases ht
  | item _ _ => exact ⟨_, rfl⟩

/-- A table keeps the names of its members, and their values up to order. -/
theorem table {t u : Tree} (h : Reordered t u) {ms : List (String × Tree)} (ht : t = .table ms) :
    ∃ ns, u = .table ns ∧ (ms.map Prod.fst).Perm (ns.map Prod.fst) ∧
      ∀ name v, (name, v) ∈ ms → ∃ w, (name, w) ∈ ns ∧ Reordered v w := by
  induction h generalizing ms with
  | refl t => exact ⟨ms, ht, .refl _, fun _ v hv => ⟨v, hv, .refl v⟩⟩
  | trans _ _ ih ih' =>
      obtain ⟨ns, hns, hnames, hvalues⟩ := ih ht
      obtain ⟨ks, hks, hnames', hvalues'⟩ := ih' hns
      refine ⟨ks, hks, hnames.trans hnames', fun name v hv => ?_⟩
      obtain ⟨w, hw, hvw⟩ := hvalues name v hv
      obtain ⟨x, hx, hwx⟩ := hvalues' name w hw
      exact ⟨x, hx, hvw.trans hwx⟩
  | members hperm =>
      cases ht
      exact ⟨_, rfl, hperm.map _, fun _ v hv => ⟨v, hperm.subset hv, .refl v⟩⟩
  | @member before behind name v w hvw _ =>
      cases ht
      refine ⟨_, rfl, by simp, fun other x hx => ?_⟩
      by_cases hsame : (other, x) = (name, v)
      · cases hsame
        exact ⟨w, by simp, hvw⟩
      · refine ⟨x, ?_, .refl x⟩
        simp only [List.mem_append, List.mem_cons, hsame, false_or] at hx ⊢
        exact hx.imp id .inr
  | item _ _ => cases ht

/-- A table keeps its names, in some order. -/
theorem names {ms ns : List (String × Tree)} (h : Reordered (.table ms) (.table ns)) :
    (ms.map Prod.fst).Perm (ns.map Prod.fst) := by
  obtain ⟨_, ⟨rfl⟩, hnames, -⟩ := h.table rfl
  exact hnames

/-- Every member of a table has its counterpart under the same name. -/
theorem exists_of_mem {ms ns : List (String × Tree)} (h : Reordered (.table ms) (.table ns))
    {name : String} {v : Tree} (hv : (name, v) ∈ ms) : ∃ w, (name, w) ∈ ns ∧ Reordered v w := by
  obtain ⟨_, ⟨rfl⟩, -, hvalues⟩ := h.table rfl
  exact hvalues name v hv

/-- So has an inner table. -/
theorem exists_table_of_mem {ms ns inner : List (String × Tree)}
    (h : Reordered (.table ms) (.table ns)) {name : String} (hv : (name, .table inner) ∈ ms) :
    ∃ inner', (name, .table inner') ∈ ns ∧ Reordered (.table inner) (.table inner') := by
  obtain ⟨w, hw, hvw⟩ := h.exists_of_mem hv
  obtain ⟨inner', rfl, -⟩ := hvw.table rfl
  exact ⟨inner', hw, hvw⟩

end Reordered

end OpStack.Document.Json
