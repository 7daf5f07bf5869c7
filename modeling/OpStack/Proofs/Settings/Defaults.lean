import OpStack.Proofs.Settings.Setting
import OpStack.Settings.Decode

/-!
# OpStack.Proofs.Settings.Defaults

What a document leaves out has its default.

* `readMembers_keeps`, `readItems_keeps`: reading a section keeps what the fields that the
  section gives keep.
* `stackFields_read`, `loggingFields_read`: a field changes one setting, the one it is named
  after, so a setting that is left out stays as it is.
* `get_of_omitted`: the section a setting is in may be left out, or the setting in it.
-/

namespace OpStack

open Settings Document

/-- The section gives a value for the field, by name in a table and by place in a list. -/
def Document.Draft.Gives (fields : List String) (name : String) : Draft → Draft → Prop
  | .table members, value => (.text name, value) ∈ members
  | .list items, value => (name, value) ∈ fields.zip items
  | _, _ => False

namespace Setting

def titles : List String := ["stack", "logging"]

/-- The fields of the section that the setting is in. -/
def fields (i : Setting) : List String := (all.filter (·.title = i.title)).map field

/-- The document has no value for the setting: any section of that name comes without it. -/
def Omitted (i : Setting) (root : Draft) : Prop :=
  ∀ part, root.Gives titles i.title part → ∀ value, ¬ part.Gives i.fields i.field value

end Setting

/-! ## Sections -/

namespace Settings

variable {σ : Type} {P : σ → Prop} {s t : σ}

/-- What every field keeps, the members of a table keep. -/
theorem readMembers_keeps {fields : List (Field σ)} {members : List (Draft × Draft)}
    (hread : ∀ f ∈ fields, ∀ d, (.text f.name, d) ∈ members →
      ∀ s t, P s → f.read d s = .ok t → P t)
    {seen : List String} (hs : P s) (h : readMembers fields seen s members = .ok t) : P t := by
  induction members generalizing seen s with
  | nil => exact Except.ok.inj h ▸ hs
  | cons m rest ih =>
      obtain ⟨key, d⟩ := m
      cases key with
      | text name =>
          rw [readMembers] at h
          split at h
          · contradiction
          · next f hf =>
              split at h
              · contradiction
              · have hbeq : (f.name == name) = true :=
                  List.find?_some (p := fun f : Field σ => f.name == name) hf
                have hname : f.name = name := eq_of_beq hbeq
                have hmem : f ∈ fields := List.mem_of_find?_eq_some hf
                cases hu : f.read d s with
                | error e => rw [hu] at h; contradiction
                | ok u =>
                    rw [hu] at h
                    have hstep : P u :=
                      hread f hmem d (by rw [hname]; exact List.mem_cons_self) s u hs hu
                    exact ih (fun g hg d hd => hread g hg d (List.mem_cons_of_mem _ hd)) hstep h
      | _ => contradiction

/-- What every field keeps, the items of a list keep. -/
theorem readItems_keeps {dialect : Dialect} {fields : List (Field σ)} {items : List Draft}
    (hread : ∀ f ∈ fields, ∀ d, (f.name, d) ∈ (fields.map (·.name)).zip items →
      ∀ s t, P s → f.read d s = .ok t → P t)
    (hs : P s) (h : readItems dialect s fields items = .ok t) : P t := by
  induction fields generalizing items s with
  | nil =>
      cases items with
      | nil => exact Except.ok.inj h ▸ hs
      | cons d rest =>
          rw [readItems] at h
          split at h
          · contradiction
          · exact Except.ok.inj h ▸ hs
  | cons f fields ih =>
      cases items with
      | nil => exact Except.ok.inj h ▸ hs
      | cons d rest =>
          rw [readItems] at h
          cases hu : f.read d s with
          | error e => rw [hu] at h; contradiction
          | ok u =>
              rw [hu] at h
              have hstep : P u :=
                hread f List.mem_cons_self d List.mem_cons_self s u hs hu
              exact ih (fun g hg d hd => hread g (List.mem_cons_of_mem f hg) d
                (List.mem_cons_of_mem _ hd)) hstep h

/-- Reading a section keeps what every field that it gives keeps. -/
theorem readSection_keeps {dialect : Dialect} {title : String} {fields : List (Field σ)}
    {d : Draft}
    (hread : ∀ f ∈ fields, ∀ value, d.Gives (fields.map (·.name)) f.name value →
      ∀ s t, P s → f.read value s = .ok t → P t)
    (hs : P s) (h : readSection dialect title fields s d = .ok t) : P t := by
  cases d with
  | table members => exact readMembers_keeps hread hs h
  | list items => exact readItems_keeps hread hs h
  | _ => contradiction

end Settings

/-! ## Fields -/

namespace Setting

theorem title_eq (i : Setting) : i.title = "stack" ∨ i.title = "logging" := by
  cases i <;> decide

/-- A setting of the stack's section is read off that section. -/
theorem get_of_title_stack {i : Setting} (h : i.title = "stack") {s t : Settings}
    (hsection : s.stack = t.stack) : i.get s = i.get t := by
  cases i <;> simp_all [title, get]

/-- A setting of the logging's section is read off that section. -/
theorem get_of_title_logging {i : Setting} (h : i.title = "logging") {s t : Settings}
    (hsection : s.logging = t.logging) : i.get s = i.get t := by
  cases i <;> simp_all [title, get]

end Setting

namespace Settings

/-- A value that is written was read. -/
theorem exists_of_read {α σ : Type} {r : Except Flaw α} {write : α → σ} {y : σ}
    (h : (do return write (← r)) = .ok y) : ∃ v, r = .ok v ∧ y = write v := by
  cases r with
  | error e => contradiction
  | ok v => exact ⟨v, rfl, (Except.ok.inj h).symm⟩

/-- A field of the stack's section changes the setting it is named after. -/
theorem stackFields_read (logging : LoggingSettings) {f : Field StackSettings}
    (hf : f ∈ stackFields) {d : Draft} {x y : StackSettings} (h : f.read d x = .ok y) :
    ∃ (i : Setting) (v : i.Value), f.name = i.field ∧
      Settings.mk y logging = i.set ⟨x, logging⟩ v := by
  simp only [stackFields, List.mem_cons, List.not_mem_nil, or_false] at hf
  rcases hf with rfl | rfl <;> obtain ⟨v, -, rfl⟩ := exists_of_read h
  · exact ⟨.stackId, v, rfl, rfl⟩
  · exact ⟨.instrument, v, rfl, rfl⟩

/-- A field of the logging's section changes the setting it is named after. -/
theorem loggingFields_read (stack : StackSettings) {dialect : Dialect}
    {f : Field LoggingSettings} (hf : f ∈ loggingFields dialect) {d : Draft}
    {x y : LoggingSettings} (h : f.read d x = .ok y) :
    ∃ (i : Setting) (v : i.Value), f.name = i.field ∧
      Settings.mk stack y = i.set ⟨stack, x⟩ v := by
  simp only [loggingFields, List.mem_cons, List.not_mem_nil, or_false] at hf
  rcases hf with rfl | rfl | rfl | rfl | rfl <;> obtain ⟨v, -, rfl⟩ := exists_of_read h
  · exact ⟨.enabled, v, rfl, rfl⟩
  · exact ⟨.level, v, rfl, rfl⟩
  · exact ⟨.format, v, rfl, rfl⟩
  · exact ⟨.ansiEnabled, v, rfl, rfl⟩
  · exact ⟨.includeLocation, v, rfl, rfl⟩

/-! ## Documents -/

variable {dialect : Dialect} {i : Setting} {part : Draft}

theorem fields_of_title_stack (h : i.title = "stack") :
    i.fields = stackFields.map (·.name) := by
  cases i <;> simp_all [Setting.title] <;> rfl

theorem fields_of_title_logging (h : i.title = "logging") :
    i.fields = (loggingFields dialect).map (·.name) := by
  cases i <;> simp_all [Setting.title] <;> rfl

/-- If the fields of a section change the settings they are named after, the section leaves
alone what it does not give; `put` are the settings with the section in its place. -/
theorem get_put_readSection {σ : Type} {title : String} {fields : List (Field σ)} {start x : σ}
    {put : σ → Settings}
    (hread : ∀ f ∈ fields, ∀ d y z, f.read d y = .ok z →
      ∃ (j : Setting) (v : j.Value), f.name = j.field ∧ put z = j.set (put y) v)
    (hfields : i.fields = fields.map (·.name))
    (homitted : ∀ value, ¬ part.Gives i.fields i.field value)
    (h : readSection dialect title fields start part = .ok x) :
    i.get (put x) = i.get (put start) := by
  refine readSection_keeps (P := fun y => i.get (put y) = i.get (put start)) ?_ rfl h
  intro f hf value hvalue y z hy hz
  obtain ⟨j, v, hname, hset⟩ := hread f hf value y z hz
  have hne : i ≠ j := by
    rintro rfl
    rw [← hfields, hname] at hvalue
    exact homitted value hvalue
  rw [hset, Setting.get_set_of_ne hne]
  exact hy

/-- A setting that a document leaves out has its default. -/
theorem get_of_omitted {doc : Document} {s : Settings} (h : decode dialect doc = .ok s)
    (homitted : i.Omitted doc.root) : i.get s = i.get {} := by
  have hread : readSection dialect "StrataConfig" (sections dialect) {} doc.root = .ok s := by
    rw [decode] at h
    cases hread : readSection dialect "StrataConfig" (sections dialect) {} doc.root with
    | error e => rw [hread] at h; contradiction
    | ok t =>
        rw [hread] at h
        have hend : (if doc.clean then .ok t else .error Flaw.syntaxError) = Except.ok s := h
        split at hend
        · exact hend
        · contradiction
  refine readSection_keeps (P := fun t => i.get t = i.get {}) ?_ rfl hread
  intro f hf value hvalue t u ht hu
  simp only [sections, List.mem_cons, List.not_mem_nil, or_false] at hf
  rcases hf with rfl | rfl <;> obtain ⟨x, hx, rfl⟩ := exists_of_read hu
  · rcases i.title_eq with htitle | htitle
    · rw [← htitle] at hvalue
      have hsection : i.get ⟨x, t.logging⟩ = i.get ⟨{}, t.logging⟩ :=
        get_put_readSection (fun _ hf _ _ _ => stackFields_read t.logging hf)
          (fields_of_title_stack htitle) (homitted value hvalue) hx
      exact hsection.trans (Setting.get_of_title_stack htitle rfl)
    · have hkept : i.get ⟨x, t.logging⟩ = i.get t := Setting.get_of_title_logging htitle rfl
      exact hkept.trans ht
  · rcases i.title_eq with htitle | htitle
    · have hkept : i.get ⟨t.stack, x⟩ = i.get t := Setting.get_of_title_stack htitle rfl
      exact hkept.trans ht
    · rw [← htitle] at hvalue
      have hsection : i.get ⟨t.stack, x⟩ = i.get ⟨t.stack, {}⟩ :=
        get_put_readSection (fun _ hf _ _ _ => loggingFields_read t.stack hf)
          (fields_of_title_logging htitle) (homitted value hvalue) hx
      exact hsection.trans (Setting.get_of_title_logging htitle rfl)

end Settings

end OpStack
