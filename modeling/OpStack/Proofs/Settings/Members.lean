import OpStack.Proofs.Document.Assembling
import OpStack.Proofs.Settings.Defaults

/-!
# OpStack.Proofs.Settings.Members

Reading the members of a table: each must have the name of a field, none may come twice, and each
value must be one that the field reads.

* `readMembers_sound`, `readMembers_complete`: these conditions are needed, and they are enough.
* `readMembers_gives`: what the field of a member brings about lasts to the end, if no other field
  undoes it.
* `readTable` reads the members of a JSON table, and has these lemmas too.
* `readSection_whole`: nothing that was read is cut short.
-/

namespace OpStack.Settings

open Document Document.Json

variable {σ : Type} {fields : List (Field σ)} {seen : List String} {s t : σ}
  {members : List (Draft × Draft)}

/-- What is looked up is one of the fields, and has the name. -/
theorem field?_eq_some {name : String} {f : Field σ} (h : field? fields name = some f) :
    f ∈ fields ∧ f.name = name := by
  have hbeq : (f.name == name) = true :=
    List.find?_some (p := fun f : Field σ => f.name == name) h
  exact ⟨List.mem_of_find?_eq_some h, eq_of_beq hbeq⟩

/-- Members are read one after the other, each for a field of its own that was not given before. -/
theorem readMembers_cons_eq_ok_iff {key d : Draft} :
    readMembers fields seen s ((key, d) :: members) = .ok t ↔
      ∃ f u, key = .text f.name ∧ field? fields f.name = some f ∧ f.name ∉ seen ∧
        f.read d s = .ok u ∧ readMembers fields (f.name :: seen) u members = .ok t := by
  constructor
  · intro h
    cases key with
    | text name =>
        rw [readMembers] at h
        split at h
        · contradiction
        · next f hf =>
            obtain ⟨-, rfl⟩ := field?_eq_some hf
            split at h
            · contradiction
            · next hseen =>
                cases hu : f.read d s with
                | error e => rw [hu] at h; contradiction
                | ok u =>
                    rw [hu] at h
                    exact ⟨f, u, rfl, hf, by simpa using hseen, hu, h⟩
    | _ => contradiction
  · rintro ⟨f, u, rfl, hf, hseen, hu, hrest⟩
    have hcontains : seen.contains f.name = false := by simpa using hseen
    rw [readMembers, hf]
    simp only [hcontains, Bool.false_eq_true, if_false, hu]
    exact hrest

/-- Members that are read have names of fields, each once, and values that these read. -/
theorem readMembers_sound (h : readMembers fields seen s members = .ok t) :
    (members.map Prod.fst).Nodup ∧ ∀ m ∈ members, ∃ f ∈ fields, m.1 = .text f.name ∧
      f.name ∉ seen ∧ ∃ u v, f.read m.2 u = .ok v := by
  induction members generalizing seen s with
  | nil => exact ⟨List.nodup_nil, fun _ hm => absurd hm List.not_mem_nil⟩
  | cons m rest ih =>
      obtain ⟨key, d⟩ := m
      obtain ⟨f, u, rfl, hf, hseen, hu, hrest⟩ := readMembers_cons_eq_ok_iff.mp h
      obtain ⟨hnodup, hknown⟩ := ih hrest
      refine ⟨List.nodup_cons.mpr ⟨?_, hnodup⟩, ?_⟩
      · intro hmem
        obtain ⟨m, hm, hkey⟩ := List.mem_map.mp hmem
        obtain ⟨g, -, hg, hnew, -⟩ := hknown m hm
        have hname : f.name = g.name := Draft.text.inj (hkey.symm.trans hg)
        exact hnew (hname ▸ List.mem_cons_self)
      · rintro m (_ | ⟨_, hm⟩)
        · exact ⟨f, (field?_eq_some hf).1, rfl, hseen, s, u, hu⟩
        · obtain ⟨g, hg, hkey, hnew, hread⟩ := hknown m hm
          exact ⟨g, hg, hkey, fun hold => hnew (List.mem_cons_of_mem _ hold), hread⟩

/-- Members with names of fields, each once, and values that these read are read. -/
theorem readMembers_complete (hnodup : (members.map Prod.fst).Nodup)
    (hknown : ∀ m ∈ members, ∃ f, field? fields f.name = some f ∧ m.1 = .text f.name ∧
      f.name ∉ seen ∧ ∀ u, ∃ v, f.read m.2 u = .ok v) (s : σ) :
    ∃ t, readMembers fields seen s members = .ok t := by
  induction members generalizing seen s with
  | nil => exact ⟨s, rfl⟩
  | cons m rest ih =>
      obtain ⟨key, d⟩ := m
      obtain ⟨f, hf, rfl, hseen, hread⟩ := hknown _ List.mem_cons_self
      obtain ⟨hnew, hrest⟩ := List.nodup_cons.mp hnodup
      obtain ⟨u, hu⟩ := hread s
      have hmore : ∀ m ∈ rest, ∃ f', field? fields f'.name = some f' ∧ m.1 = .text f'.name ∧
          f'.name ∉ f.name :: seen ∧ ∀ u, ∃ v, f'.read m.2 u = .ok v := by
        intro m hm
        obtain ⟨g, hg, hkey, hold, hread⟩ := hknown m (List.mem_cons_of_mem _ hm)
        refine ⟨g, hg, hkey, ?_, hread⟩
        intro hmem
        rcases List.mem_cons.mp hmem with hsame | hbefore
        · exact hnew (List.mem_map.mpr ⟨m, hm, hsame ▸ hkey⟩)
        · exact hold hbefore
      obtain ⟨t, ht⟩ := ih hrest hmore u
      exact ⟨t, readMembers_cons_eq_ok_iff.mpr ⟨f, u, rfl, hf, hseen, hu, ht⟩⟩

/-- What a given field brings about lasts, if no other field undoes it. -/
theorem readMembers_gives {P : σ → Prop} {name : String} {d : Draft}
    (h : readMembers fields seen s members = .ok t) (hmem : (.text name, d) ∈ members)
    (hgives : ∀ f ∈ fields, f.name = name → ∀ x y, f.read d x = .ok y → P y)
    (hkeeps : ∀ f ∈ fields, f.name ≠ name → ∀ e x y, P x → f.read e x = .ok y → P y) : P t := by
  induction members generalizing seen s with
  | nil => cases hmem
  | cons m rest ih =>
      obtain ⟨key, e⟩ := m
      obtain ⟨f, u, rfl, hf, hseen, hu, hrest⟩ := readMembers_cons_eq_ok_iff.mp h
      have hf' : f ∈ fields := (field?_eq_some hf).1
      rcases List.mem_cons.mp hmem with heq | hlater
      · cases heq
        have hnow : P u := hgives f hf' rfl s u hu
        -- The name is seen now, so none of the members behind is of this field.
        refine readMembers_keeps ?_ hnow hrest
        intro g hg e hlater x y hx hy
        obtain ⟨g', -, hkey, hnew, -⟩ := (readMembers_sound hrest).2 _ hlater
        have hne : g.name ≠ f.name := by
          rw [Draft.text.inj hkey]
          exact fun hsame => hnew (hsame ▸ List.mem_cons_self)
        exact hkeeps g hg hne e x y hx hy
      · exact ih hrest hlater

/-! ## Tables -/

def readTable (fields : List (Field σ)) (s : σ) (ms : List (String × Tree)) : Except Flaw σ :=
  readMembers fields [] s (Tree.memberDrafts ms)

variable {ms : List (String × Tree)}

/-- A table that is read has distinct names, and its members fit the fields. -/
theorem readTable_sound (h : readTable fields s ms = .ok t) :
    (ms.map Prod.fst).Nodup ∧ ∀ name v, (name, v) ∈ ms →
      ∃ f ∈ fields, f.name = name ∧ ∃ x y, f.read v.draft x = .ok y := by
  obtain ⟨hnodup, hknown⟩ := readMembers_sound h
  refine ⟨Tree.nodup_memberDrafts_iff.mp hnodup, fun name v hm => ?_⟩
  obtain ⟨f, hf, hname, -, hread⟩ :=
    hknown _ (Tree.mem_memberDrafts_iff.mpr ⟨name, v, hm, rfl, rfl⟩)
  exact ⟨f, hf, (Draft.text.inj hname).symm, hread⟩

/-- A table with distinct names and fitting members is read. -/
theorem readTable_complete (hnodup : (ms.map Prod.fst).Nodup)
    (hknown : ∀ name v, (name, v) ∈ ms →
      ∃ f, field? fields name = some f ∧ ∀ x, ∃ y, f.read v.draft x = .ok y) (s : σ) :
    ∃ t, readTable fields s ms = .ok t := by
  refine readMembers_complete (Tree.nodup_memberDrafts_iff.mpr hnodup) (fun (key, d) hm => ?_) s
  obtain ⟨name, v, hv, rfl, rfl⟩ := Tree.mem_memberDrafts_iff.mp hm
  obtain ⟨f, hf, hread⟩ := hknown name v hv
  obtain ⟨-, rfl⟩ := field?_eq_some hf
  exact ⟨f, hf, rfl, List.not_mem_nil, hread⟩

/-- What every given field keeps, a table keeps. -/
theorem readTable_keeps {P : σ → Prop}
    (hread : ∀ f ∈ fields, ∀ v, (f.name, v) ∈ ms →
      ∀ x y, P x → f.read v.draft x = .ok y → P y)
    (hs : P s) (h : readTable fields s ms = .ok t) : P t := by
  refine readMembers_keeps (fun f hf d hm x y hx hy => ?_) hs h
  obtain ⟨name, v, hv, hname, rfl⟩ := Tree.mem_memberDrafts_iff.mp hm
  obtain rfl := Draft.text.inj hname
  exact hread f hf v hv x y hx hy

/-- What one field gives and the others keep, a table gives that has it. -/
theorem readTable_gives {P : σ → Prop} {name : String} {v : Tree}
    (h : readTable fields s ms = .ok t) (hmem : (name, v) ∈ ms)
    (hgives : ∀ f ∈ fields, f.name = name → ∀ x y, f.read v.draft x = .ok y → P y)
    (hkeeps : ∀ f ∈ fields, f.name ≠ name → ∀ e x y, P x → f.read e x = .ok y → P y) : P t :=
  readMembers_gives h (Tree.mem_memberDrafts_iff.mpr ⟨name, v, hmem, rfl, rfl⟩) hgives hkeeps

/-! ## Nothing is cut short -/

/-- Items of a list are those of fields too. -/
theorem readItems_sound {dialect : Dialect} {items : List Draft}
    (h : readItems dialect s fields items = .ok t) (hdialect : dialect = .json) :
    ∀ d ∈ items, ∃ f ∈ fields, ∃ u v, f.read d u = .ok v := by
  induction fields generalizing items s with
  | nil =>
      cases items with
      | nil => exact fun _ hd => absurd hd List.not_mem_nil
      | cons d rest =>
          rw [readItems, if_pos hdialect] at h
          contradiction
  | cons f fields ih =>
      cases items with
      | nil => exact fun _ hd => absurd hd List.not_mem_nil
      | cons d rest =>
          rw [readItems] at h
          cases hu : f.read d s with
          | error e => rw [hu] at h; contradiction
          | ok u =>
              rw [hu] at h
              intro e he
              rcases List.mem_cons.mp he with rfl | hrest
              · exact ⟨f, List.mem_cons_self, s, u, hu⟩
              · obtain ⟨g, hg, hread⟩ := ih h e hrest
                exact ⟨g, List.mem_cons_of_mem f hg, hread⟩

/-- A section whose fields read nothing that is cut short is not cut short itself. -/
theorem readSection_whole {title : String} {d : Draft}
    (hfields : ∀ f ∈ fields, ∀ e x y, f.read e x = .ok y → ¬ e.Cut)
    (h : readSection .json title fields s d = .ok t) : ¬ d.Cut := by
  intro hcut
  cases hcut with
  | broken => contradiction
  | list hd hcut =>
      obtain ⟨f, hf, x, y, hread⟩ := readItems_sound h rfl _ hd
      exact hfields f hf _ x y hread hcut
  | table hd hcut =>
      obtain ⟨f, hf, -, -, x, y, hread⟩ := (readMembers_sound h).2 _ hd
      exact hfields f hf _ x y hread hcut

end OpStack.Settings
