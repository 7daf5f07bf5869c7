import OpStack.Proofs.Registry.Cells

/-!
# OpStack.Proofs.Registry.Undoing

Which operation takes a change back:

1. after `swap`, a `swap` of the entry that was returned;
2. after `add` and `insert`, a `remove`;
3. after `remove`, an `insert` next to an old neighbour, or an `add` at the end where the
   entry had stood.

Two proper lists that differ in one entry say all about the operations that lead from one to
the other (`turns_swap`, `turns_remove`, `turns_insert_before`, …): what the operation asks
for is that the other list is proper.  So to take a change back is to read such a lemma for the
two lists the other way round.  What remains is to see which lists a change that succeeded
leads between (`exists_of_swap`, `exists_of_brings`, `exists_of_remove`).
-/

namespace OpStack

open Registry

variable {α : Type} [Identified α]

namespace Registry.Op

/-! ## From one list to another -/

/-- The operation turns the registry into another one, and this is what the caller is told. -/
structure Turns (op : Op α) (r : Registry α) (reply : Reply α) (r' : Registry α) : Prop where
  reply : (op.perform r).reply = reply
  registry : (op.perform r).registry = r'

variable {xs ys zs : List α} {x y : α}

/-- A possible change turns a list into the list of its cells. -/
theorem Possible.turns {op : Op α} (h : op.Possible xs) (hop : op.Alters)
    (hxs : Roster.Proper xs) :
    op.Turns (ofList xs) ((op.taken? xs).elim .done .entry) (ofList (op.effect xs)) :=
  ⟨(h.perform hop hxs).1, (h.perform hop hxs).2⟩

/-- In a proper list an entry is found under its own identifier. -/
theorem find?_of_proper (hx : Roster.Proper (ys ++ x :: zs)) :
    (ys ++ x :: zs).find? (Identified.id · == Identified.id x) = some x := by
  have hfree := ((Roster.proper_middle_iff ys zs x).mp hx).2.1
  rw [names_append, List.mem_append, not_or] at hfree
  exact Roster.find?_middle zs hfree.1

/-- An entry gives way to another one if both can stand there. -/
theorem turns_swap (hx : Roster.Proper (ys ++ x :: zs)) (hy : Roster.Proper (ys ++ y :: zs)) :
    (swap (Identified.id x) y).Turns (ofList (ys ++ x :: zs)) (.entry x)
      (ofList (ys ++ y :: zs)) := by
  obtain ⟨-, hxfree, -⟩ := (Roster.proper_middle_iff ys zs x).mp hx
  obtain ⟨hynamed, hyfree, -⟩ := (Roster.proper_middle_iff ys zs y).mp hy
  have hmem : Identified.id x ∈ names (ys ++ x :: zs) := by simp
  have hnew : Identified.id y ≠ Identified.id x → Identified.id y ∉ names (ys ++ x :: zs) := by
    intro hne hm
    rcases List.mem_cons.mp ((Roster.names_middle ys zs x).mem_iff.mp hm) with heq | hother
    · exact hne heq
    · exact hyfree hother
  have hpossible : (swap (Identified.id x) y).Possible (ys ++ x :: zs) := ⟨hmem, hynamed, hnew⟩
  have hturns := hpossible.turns trivial hx
  have hfound := find?_of_proper hx
  rw [Roster.effect_middle _ rfl x hxfree] at hturns
  simpa [taken?, hfound, cell] using hturns

/-- An entry is taken out. -/
theorem turns_remove (hx : Roster.Proper (ys ++ x :: zs)) :
    (remove (Identified.id x)).Turns (ofList (ys ++ x :: zs)) (.entry x) (ofList (ys ++ zs)) := by
  obtain ⟨-, hfree, -⟩ := (Roster.proper_middle_iff ys zs x).mp hx
  have hmem : Identified.id x ∈ names (ys ++ x :: zs) := by simp
  have hpossible : (remove (Identified.id x)).Possible (ys ++ x :: zs) := hmem
  have hturns := hpossible.turns trivial hx
  have hfound := find?_of_proper hx
  rw [Roster.effect_middle _ rfl x hfree] at hturns
  simpa [taken?, hfound, cell] using hturns

/-- An entry can come to a list in which it can stand. -/
theorem refusal?_of_proper (hx : Roster.Proper (ys ++ x :: zs)) :
    Roster.refusal? (ys ++ zs) x = none :=
  have h := (Roster.proper_middle_iff ys zs x).mp hx
  Roster.refusal?_eq_none_iff.mpr ⟨h.1, h.2.1⟩

/-- An entry comes to stand in front of all. -/
theorem turns_add_before (hx : Roster.Proper (x :: zs)) :
    (add x .before).Turns (ofList zs) .done (ofList (x :: zs)) := by
  have hzs : Roster.Proper zs := ((Roster.proper_middle_iff [] zs x).mp hx).2.2
  have hrefusal : Roster.refusal? ([] ++ zs) x = none := refusal?_of_proper hx
  have hpossible : (add x .before).Possible zs := hrefusal
  have hturns := hpossible.turns trivial hzs
  rwa [effect_add_before] at hturns

/-- An entry comes to stand behind all. -/
theorem turns_add_after (hx : Roster.Proper (ys ++ [x])) :
    (add x .after).Turns (ofList ys) .done (ofList (ys ++ [x])) := by
  have hys := ((Roster.proper_middle_iff ys [] x).mp hx).2.2
  have hrefusal := refusal?_of_proper hx
  rw [List.append_nil] at hys hrefusal
  have hpossible : (add x .after).Possible ys := hrefusal
  have hturns := hpossible.turns trivial hys
  rwa [effect_add_after] at hturns

/-- An entry comes to stand before the anchor `y`. -/
theorem turns_insert_before (hx : Roster.Proper (ys ++ x :: y :: zs)) :
    (insert x (Identified.id y) .before).Turns (ofList (ys ++ y :: zs)) .done
      (ofList (ys ++ x :: y :: zs)) := by
  have hy := ((Roster.proper_middle_iff ys (y :: zs) x).mp hx).2.2
  have hfree := ((Roster.proper_middle_iff ys zs y).mp hy).2.1
  have hpossible : (insert x (Identified.id y) .before).Possible (ys ++ y :: zs) :=
    ⟨refusal?_of_proper hx, by simp⟩
  have hturns := hpossible.turns trivial hy
  rw [Roster.effect_middle _ rfl y hfree] at hturns
  simpa [taken?, cell] using hturns

/-- An entry comes to stand behind the anchor `y`. -/
theorem turns_insert_after (hx : Roster.Proper (ys ++ y :: x :: zs)) :
    (insert x (Identified.id y) .after).Turns (ofList (ys ++ y :: zs)) .done
      (ofList (ys ++ y :: x :: zs)) := by
  -- behind the anchor is behind the list that ends in it
  rw [List.append_cons] at hx
  have hy := ((Roster.proper_middle_iff (ys ++ [y]) zs x).mp hx).2.2
  have hrefusal := refusal?_of_proper hx
  rw [← List.append_cons] at hy hrefusal
  have hfree := ((Roster.proper_middle_iff ys zs y).mp hy).2.1
  have hpossible : (insert x (Identified.id y) .after).Possible (ys ++ y :: zs) :=
    ⟨hrefusal, by simp⟩
  have hturns := hpossible.turns trivial hy
  rw [Roster.effect_middle _ rfl y hfree] at hturns
  simpa [taken?, cell] using hturns

/-! ## Changes that succeeded -/

/-- What is told other than a failure is told of a success. -/
theorem succeeds_of_reply {r : Registry α} {op : Op α} {reply : Reply α}
    (h : (op.perform r).reply = reply) (hreply : ∀ e, reply ≠ .failed e) : op.Succeeds r :=
  fun e he => hreply e (h.symm.trans he)

/-- An exchange that succeeded was one between two entries that can stand there. -/
theorem exists_of_swap (hxs : Roster.Proper xs) {id : String}
    (h : ((swap id y).perform (ofList xs)).reply = .entry x) :
    ∃ ys zs, xs = ys ++ x :: zs ∧ Identified.id x = id ∧ Roster.Proper (ys ++ y :: zs) := by
  obtain ⟨hmem, hnamed, hnew⟩ := (succeeds_of_reply h (by simp)).possible
  obtain ⟨ys, old, zs, rfl, rfl, -, -, -⟩ := Roster.effect_at (swap id y) rfl hxs hmem
  obtain ⟨-, hfree, hrest⟩ := (Roster.proper_middle_iff ys zs old).mp hxs
  have hother : Identified.id y ∉ names (ys ++ zs) := by
    intro hm
    by_cases hsame : Identified.id y = Identified.id old
    · exact hfree (hsame ▸ hm)
    · exact hnew hsame ((Roster.names_middle ys zs old).mem_iff.mpr (List.mem_cons_of_mem _ hm))
  have hproper := (Roster.proper_middle_iff ys zs y).mpr ⟨hnamed, hother, hrest⟩
  -- the entry that stood there is the one that was returned
  have hold := (turns_swap hxs hproper).reply
  rw [h, Reply.entry.injEq] at hold
  subst hold
  exact ⟨ys, zs, rfl, rfl, hproper⟩

/-- A removed entry was one of the list. -/
theorem exists_of_remove (hxs : Roster.Proper xs) {id : String}
    (h : ((remove id).perform (ofList xs)).reply = .entry x) :
    ∃ ys zs, xs = ys ++ x :: zs ∧ Identified.id x = id := by
  have hmem : id ∈ names xs := (succeeds_of_reply h (by simp)).possible
  obtain ⟨ys, old, zs, rfl, rfl, -, -, -⟩ := Roster.effect_at (remove id) rfl hxs hmem
  have hold := (turns_remove hxs).reply
  rw [h, Reply.entry.injEq] at hold
  subst hold
  exact ⟨ys, zs, rfl, rfl⟩

def Brings (x : α) (op : Op α) : Prop :=
  (∃ position, op = add x position) ∨ ∃ anchor position, op = insert x anchor position

/-- An entry that was added or inserted stands somewhere among the others. -/
theorem exists_of_brings (hxs : Roster.Proper xs) {op : Op α} (hop : op.Brings x)
    (h : op.Succeeds (ofList xs)) :
    ∃ ys zs, xs = ys ++ zs ∧ Roster.Proper (ys ++ x :: zs) ∧
      (op.perform (ofList xs)).registry = ofList (ys ++ x :: zs) := by
  have hpossible := h.possible
  rcases hop with ⟨position, rfl⟩ | ⟨anchor, position, rfl⟩
  · have hregistry := (hpossible.turns trivial hxs).registry
    cases position with
    | before =>
        rw [effect_add_before] at hregistry
        exact ⟨[], xs, rfl, Roster.proper_place [] xs hxs hpossible, hregistry⟩
    | after =>
        rw [effect_add_after] at hregistry
        have hproper : Roster.Proper (xs ++ [x]) :=
          Roster.proper_place xs [] (by rwa [List.append_nil]) (by rwa [List.append_nil])
        exact ⟨xs, [], (List.append_nil xs).symm, hproper, hregistry⟩
  · obtain ⟨hrefusal, hmem⟩ := hpossible
    obtain ⟨ys, y, zs, rfl, rfl, -, -, -⟩ :=
      Roster.effect_at (insert x anchor position) rfl hxs hmem
    cases position with
    | before =>
        have hproper := Roster.proper_place ys (y :: zs) hxs hrefusal
        exact ⟨ys, y :: zs, rfl, hproper, (turns_insert_before hproper).registry⟩
    | after =>
        rw [List.append_cons] at hxs hrefusal
        have hproper := Roster.proper_place (ys ++ [y]) zs hxs hrefusal
        have hafter := (turns_insert_after (by rwa [← List.append_cons] at hproper)).registry
        refine ⟨ys ++ [y], zs, List.append_cons ys y zs, hproper, ?_⟩
        rw [hafter, ← List.append_cons]

/-! ## Taking back -/

/-- Behind `op`, the operation `back` restores the registry, and this is what its caller is
told. -/
def Undoes (r : Registry α) (op back : Op α) (reply : Reply α) : Prop :=
  back.Turns (op.perform r).registry reply r

/-- Where an identifier stands in a proper list. -/
theorem names_cut (hx : Roster.Proper (ys ++ x :: zs)) {front back : List String}
    (h : names (ys ++ x :: zs) = front ++ Identified.id x :: back) :
    names ys = front ∧ names zs = back := by
  have hfree := ((Roster.proper_middle_iff ys zs x).mp hx).2.1
  rw [names_append, List.mem_append, not_or] at hfree
  rw [names_append, names_cons, List.append_cons_inj_of_notMem hfree.1 hfree.2] at h
  exact ⟨h.1, h.2.2⟩

/-- **Changes can be taken back.**  On a registry that operations have led to,

1. an exchange is taken back by an exchange for the entry that was returned;
2. what was added or inserted is removed;
3. a removed entry goes back behind its former predecessor, before its former successor, or to
   the end where it had stood.

The operation that does so succeeds, tells the caller what the change had brought, and restores
the registry, so all ways in which a removed entry can go back lead to the same registry. -/
theorem changes_undone (history : List (Shelf.Op α)) (r : Registry α)
    (hr : r ∈ ((Shelf.start : Shelf α).run history).registries) :
    (∀ id entry old, ((swap id entry).perform r).reply = .entry old →
      Undoes r (swap id entry) (swap (Identified.id entry) old) (.entry entry)) ∧
    (∀ entry op, Brings entry op → op.Succeeds r →
      Undoes r op (remove (Identified.id entry)) (.entry entry)) ∧
    ∀ id old, ((remove id).perform r).reply = .entry old →
      (∃ front back, r.ids = front ++ id :: back) ∧
      (∀ front anchor back, r.ids = front ++ anchor :: id :: back →
        Undoes r (remove id) (insert old anchor .after) .done) ∧
      (∀ front anchor back, r.ids = front ++ id :: anchor :: back →
        Undoes r (remove id) (insert old anchor .before) .done) ∧
      (∀ back, r.ids = id :: back → Undoes r (remove id) (add old .before) .done) ∧
      ∀ front, r.ids = front ++ [id] → Undoes r (remove id) (add old .after) .done := by
  obtain ⟨xs, rfl, hproper⟩ := (Shelf.sound_of_mem hr).exists_ofList
  refine ⟨fun id entry old h => ?_, fun entry op hop h => ?_, fun id old h => ?_⟩
  · obtain ⟨ys, zs, rfl, rfl, hentry⟩ := exists_of_swap hproper h
    rw [Undoes, (turns_swap hproper hentry).registry]
    exact turns_swap hentry hproper
  · obtain ⟨ys, zs, rfl, hentry, hregistry⟩ := exists_of_brings hproper hop h
    rw [Undoes, hregistry]
    exact turns_remove hentry
  · obtain ⟨ys, zs, rfl, rfl⟩ := exists_of_remove hproper h
    simp only [Undoes, (turns_remove hproper).registry, ids_ofList]
    refine ⟨⟨names ys, names zs, by simp⟩, fun front anchor back hids => ?_,
      fun front anchor back hids => ?_, fun back hids => ?_, fun front hids => ?_⟩
    · obtain ⟨hys, -⟩ := names_cut hproper (List.append_cons front anchor _ ▸ hids)
      obtain ⟨ws, ps, rfl, -, hps⟩ := List.map_eq_append_iff.mp hys
      obtain ⟨p, rfl, rfl⟩ := List.map_eq_singleton_iff.mp hps
      rw [← List.append_cons] at hproper ⊢
      rw [← List.append_cons]
      exact turns_insert_after hproper
    · obtain ⟨-, hzs⟩ := names_cut hproper hids
      obtain ⟨q, ws, rfl, rfl, -⟩ := List.map_eq_cons_iff.mp hzs
      exact turns_insert_before hproper
    · have hfirst : names (ys ++ old :: zs) = [] ++ Identified.id old :: back := hids
      obtain ⟨hys, -⟩ := names_cut hproper hfirst
      obtain rfl := List.map_eq_nil_iff.mp hys
      exact turns_add_before hproper
    · obtain ⟨-, hzs⟩ := names_cut hproper hids
      obtain rfl := List.map_eq_nil_iff.mp hzs
      rw [List.append_nil]
      exact turns_add_after hproper

/-- A middleware is exchanged for one with another identifier; one in the middle is removed. -/
theorem undone_in_the_middle :
    let m : String → Middleware Unit Unit := fun id => ⟨id, fun _ => .finish (.ok ())⟩
    let r := ofList [m "a", m "b", m "c"]
    ((swap "b" (m "d")).perform r).reply = .entry (m "b") ∧
    Undoes r (swap "b" (m "d")) (swap "d" (m "b")) (.entry (m "d")) ∧
    Undoes r (remove "b") (insert (m "b") "a" .after) .done ∧
    Undoes r (remove "b") (insert (m "b") "c" .before) .done := by
  intro m r
  have hr : r ∈ ((Shelf.start : Shelf (Middleware Unit Unit)).run
      [.on (.add (m "b") .after), .on (.add (m "a") .before),
        .on (.add (m "c") .after)]).registries := List.mem_singleton.mpr rfl
  have hswap : ((swap "b" (m "d")).perform r).reply = .entry (m "b") := rfl
  obtain ⟨hswaps, -, hremoves⟩ := changes_undone _ r hr
  obtain ⟨-, hafter, hbefore, -⟩ := hremoves "b" (m "b") rfl
  exact ⟨hswap, hswaps "b" (m "d") (m "b") hswap, hafter [] "a" ["c"] rfl,
    hbefore ["a"] "c" [] rfl⟩

end Registry.Op

end OpStack
