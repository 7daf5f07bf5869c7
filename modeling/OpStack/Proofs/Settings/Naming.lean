import OpStack.Proofs.Settings.Variables

/-!
# OpStack.Proofs.Settings.Naming

Which names of variables mean a setting, and what a single variable does.

A name is read in three steps: the lead is taken off its front, then two underscores, and the
rest is cut at every two underscores, from the front on (`parts?`).  The parts of a setting's
variable are its section and its name there, in upper case (`Setting.path`).  Cutting can be
taken back (`intercalate_segments`), so whatever underscores a name has, it has the parts of a
setting only if it is the name of that setting's variable (`parts?_eq_path_iff`).

`variable_exact` says what a variable does by its name: it changes one setting, or is wrong, or
is told, or nothing at all.
-/

namespace OpStack

open Settings

/-! ## Cutting names -/

/-- The pieces between any two underscores, which are taken from the front on: of three in a row
the last one belongs to the next piece. -/
def segments : List Char → List (List Char)
  | [] => [[]]
  | '_' :: '_' :: cs => [] :: segments cs
  | c :: cs => (segments cs).modifyHead (c :: ·)

/-- A text has at least one segment. -/
theorem exists_segments (cs : List Char) : ∃ x xs, segments cs = x :: xs := by
  induction cs using segments.induct with
  | case1 => exact ⟨[], [], rfl⟩
  | case2 cs ih => exact ⟨[], segments cs, rfl⟩
  | case3 c cs hne ih =>
      obtain ⟨x, xs, h⟩ := ih
      exact ⟨c :: x, xs, by rw [segments, h, List.modifyHead_cons]; exact hne⟩

/-- Two underscores between the pieces give the text back. -/
theorem intercalate_segments (cs : List Char) : ['_', '_'].intercalate (segments cs) = cs := by
  induction cs using segments.induct with
  | case1 => simp [segments]
  | case2 cs ih =>
      obtain ⟨x, xs, h⟩ := exists_segments cs
      rw [h] at ih
      rw [segments, h, List.intercalate_cons_cons, ih]
      rfl
  | case3 c cs hne ih =>
      obtain ⟨x, xs, h⟩ := exists_segments cs
      rw [h] at ih
      rw [segments, h, List.modifyHead_cons]
      · cases xs <;> simp_all
      · exact hne

/-- A text is known by its segments. -/
theorem segments_inj {cs ds : List Char} : segments cs = segments ds ↔ cs = ds := by
  constructor
  · intro h
    rw [← intercalate_segments cs, h, intercalate_segments]
  · exact congrArg segments

example : segments "STACK___ID".toList = ["STACK".toList, "_ID".toList] := by decide

/-! ## Names of settings -/

/-- The parts of a name: what is behind the lead and two underscores, in pieces. -/
def parts? (lead name : String) : Option (List (List Char)) :=
  ((name.toList.dropPrefix? lead.toList).bind (·.dropPrefix? ['_', '_'])).map segments

/-- The parts of the name of the setting's variable: the section, and the name there. -/
def Setting.path (i : Setting) : List (List Char) :=
  [(Text.upper i.title).toList, (Text.upper i.field).toList]

/-- The suffix of a setting spells its path. -/
theorem Setting.segments_suffix (i : Setting) : segments i.suffix.toList = i.path := by
  cases i <;> decide +kernel

/-- Without the prefix the rest is left. -/
theorem dropPrefix?_eq_some_iff {front cs rest : List Char} :
    cs.dropPrefix? front = some rest ↔ cs = front ++ rest := by
  rw [List.dropPrefix?_eq_some_iff]
  constructor
  · rintro ⟨front', rfl, hfront⟩
    rw [eq_of_beq hfront]
  · rintro rfl
    exact ⟨front, rfl, beq_self_eq_true front⟩

/-- To take off the lead and then the underscores is to take off both together. -/
theorem parts?_eq_some_iff {lead name : String} {parts : List (List Char)} :
    parts? lead name = some parts ↔
      ∃ key, name = lead ++ "__" ++ key ∧ segments key.toList = parts := by
  have hname : ∀ key : String, name = lead ++ "__" ++ key ↔
      name.toList = lead.toList ++ ("__".toList ++ key.toList) := by
    intro key
    rw [← String.toList_inj, String.append_assoc, String.toList_append, String.toList_append]
  simp only [parts?, Option.map_eq_some_iff, Option.bind_eq_some_iff, dropPrefix?_eq_some_iff]
  constructor
  · rintro ⟨key, ⟨rest, hlead, rfl⟩, rfl⟩
    refine ⟨String.ofList key, (hname _).mpr ?_, by rw [String.toList_ofList]⟩
    simpa using hlead
  · rintro ⟨key, hkey, rfl⟩
    exact ⟨key.toList, ⟨_, (hname key).mp hkey, rfl⟩, rfl⟩

/-- A name has the parts of a setting if it is the one name of its variable. -/
theorem parts?_eq_path_iff {lead name : String} {i : Setting} :
    parts? lead name = some i.path ↔ name = lead ++ "__" ++ i.suffix := by
  rw [parts?_eq_some_iff]
  constructor
  · rintro ⟨key, rfl, hkey⟩
    rw [← i.segments_suffix, segments_inj, String.toList_inj] at hkey
    rw [hkey]
  · rintro rfl
    exact ⟨i.suffix, rfl, i.segments_suffix⟩

/-- Underscores at the end of a lead are part of it, and others are part of what follows. -/
example : parts? "APP_" "APP___STACK__ID" = some Setting.stackId.path ∧
    parts? "APP" "APP___STACK__ID" = some ["_STACK".toList, "ID".toList] := by
  decide +kernel

namespace Role

/-- A name without the lead and two underscores has no meaning. -/
theorem ofName_eq_foreign_iff {lead name : String} :
    ofName lead name = foreign ↔ ∀ key, name ≠ lead ++ "__" ++ key := by
  have hkey : ∀ key, name ≠ lead ++ "__" ++ key ↔ Override.setting? lead name ≠ some key :=
    fun key => not_congr Override.setting?_eq_some_iff.symm
  simp only [hkey, ofName]
  cases Override.setting? lead name with
  | none => simp
  | some key => cases hfound : Setting.ofSuffix? key <;> simp [hfound]

/-- A name with these is unknown if it is none of a setting's variable. -/
theorem ofName_eq_unknown {lead key : String} (h : ∀ i : Setting, key ≠ i.suffix) :
    ofName lead (lead ++ "__" ++ key) = unknown := by
  have hkey : Override.setting? lead (lead ++ "__" ++ key) = some key :=
    Override.setting?_eq_some_iff.mpr rfl
  have hnone : Setting.ofSuffix? key = none := by
    by_contra hsome
    obtain ⟨i, hi⟩ := Option.ne_none_iff_exists'.mp hsome
    exact h i (Setting.ofSuffix?_eq_some_iff.mp hi)
  rw [ofName, hkey]
  dsimp only
  rw [hnone, Option.elim_none]

end Role

/-! ## What one variable does -/

namespace Settings

/-- What comes of one variable: the settings that are left, what was wrong, what was told. -/
structure Looked where
  settings : Settings
  fault : Option SettingsError := none
  told : List Event := []
  deriving DecidableEq, Repr

/-- Changes settings by one variable, or leaves them as they are. -/
def look (lead : String) (s : Settings) (name value : String) : Looked :=
  match overrideBy lead s name value with
  | .ok (t, told) => { settings := t, told := if told then [.overrideIgnored name] else [] }
  | .error e => { settings := s, fault := some e }

/-- Changing settings by variables in turn is looking at one after the other, up to the first
that is wrong. -/
theorem override_cons (lead : String) (s : Settings) (name value : String) (rest : Environment) :
    override lead s ((name, value) :: rest) =
      match (look lead s name value).fault with
      | some e => ⟨.error e, (look lead s name value).told⟩
      | none =>
        let others := override lead (look lead s name value).settings rest
        { others with events := (look lead s name value).told ++ others.events } := by
  rw [override, look]
  cases overrideBy lead s name value with
  | error e => rfl
  | ok r =>
      obtain ⟨t, told⟩ := r
      cases told <;> rfl

/-- What one variable does, by its role. -/
theorem look_eq (lead : String) (s : Settings) (name value : String) :
    look lead s name value =
      match Role.ofName lead name with
      | .foreign => { settings := s }
      | .unknown => { settings := s, told := [.overrideIgnored name] }
      | .of i =>
        match i.parse? value with
        | some v => { settings := i.set s v }
        | none => { settings := s, fault := some (.badOverride name i.complaint) } := by
  rw [look, overrideBy_eq]
  cases Role.ofName lead name with
  | foreign | unknown => rfl
  | of i =>
      dsimp only
      cases i.parse? value <;> rfl

/-- **Names of variables are exact.**  Whatever lead, name and text,

1. the variable of a setting has one name, the lead, two underscores and what the setting is
   called; cut at underscores it is the only name with these parts.  Its text becomes the value
   of this setting and of no other one; a text that stands for no value leaves all settings, and
   the fault has the whole name;
2. any other name with the lead and two underscores is told once, and nothing else happens;
3. any other name means nothing.

So settings change by the variable of one of them only.  In a run of variables each one does
this to what the earlier ones left, until one is wrong. -/
theorem variable_exact (lead : String) (s : Settings) (name value : String) :
    (∀ i : Setting,
      (name = lead ++ "__" ++ i.suffix ↔ parts? lead name = some i.path) ∧
      (name = lead ++ "__" ++ i.suffix →
        (∀ v, i.parse? value = some v →
          look lead s name value = { settings := i.set s v } ∧
          i.get (i.set s v) = v ∧ ∀ j : Setting, j ≠ i → j.get (i.set s v) = j.get s) ∧
        (i.parse? value = none → look lead s name value =
          { settings := s, fault := some (.badOverride name i.complaint) }))) ∧
    (∀ key, name = lead ++ "__" ++ key → (∀ i : Setting, key ≠ i.suffix) →
      look lead s name value = { settings := s, told := [.overrideIgnored name] }) ∧
    ((∀ key, name ≠ lead ++ "__" ++ key) → look lead s name value = { settings := s }) ∧
    ((look lead s name value).settings ≠ s →
      ∃ (i : Setting) (v : i.Value), name = lead ++ "__" ++ i.suffix ∧ i.parse? value = some v ∧
        look lead s name value = { settings := i.set s v }) ∧
    ∀ rest, override lead s ((name, value) :: rest) =
      match (look lead s name value).fault with
      | some e => ⟨.error e, (look lead s name value).told⟩
      | none =>
        let others := override lead (look lead s name value).settings rest
        { others with events := (look lead s name value).told ++ others.events } := by
  refine ⟨fun i => ⟨parts?_eq_path_iff.symm, fun hname => ?_⟩, fun key hname hkey => ?_,
    fun hname => ?_, fun hchanged => ?_, override_cons lead s name value⟩
  · rw [look_eq, Role.ofName_eq_of_iff.mpr hname]
    dsimp only
    refine ⟨fun v hv => ?_, fun hnone => by rw [hnone]⟩
    rw [hv]
    exact ⟨rfl, i.get_set_self s v, fun j hj => i.get_set_of_ne hj s v⟩
  · rw [look_eq, hname, Role.ofName_eq_unknown hkey]
  · rw [look_eq, Role.ofName_eq_foreign_iff.mpr hname]
  · rw [look_eq] at hchanged ⊢
    cases hrole : Role.ofName lead name with
    | foreign | unknown =>
        rw [hrole] at hchanged
        exact absurd rfl hchanged
    | of i =>
        rw [hrole] at hchanged
        dsimp only at hchanged ⊢
        cases hv : i.parse? value with
        | none =>
            rw [hv] at hchanged
            exact absurd rfl hchanged
        | some v => exact ⟨i, v, Role.ofName_eq_of_iff.mp hrole, hv, rfl⟩

/-- The lead has two underscores in it and at its end. -/
theorem variable_exact_underscored :
    "A__B____LOGGING__FORMAT" = "A__B__" ++ "__" ++ Setting.format.suffix ∧
    Setting.format.parse? "Pretty" = some .pretty ∧
    look "A__B__" {} "A__B____LOGGING__FORMAT" "Pretty" =
      { settings := { logging.format := .pretty } } := by
  have hname : "A__B____LOGGING__FORMAT" = "A__B__" ++ "__" ++ Setting.format.suffix := by decide
  have hparse : Setting.format.parse? "Pretty" = some .pretty := by decide +kernel
  obtain ⟨hnames, -⟩ := variable_exact "A__B__" {} "A__B____LOGGING__FORMAT" "Pretty"
  obtain ⟨-, hvalue⟩ := hnames .format
  exact ⟨hname, hparse, ((hvalue hname).1 .pretty hparse).1⟩

end Settings

end OpStack
