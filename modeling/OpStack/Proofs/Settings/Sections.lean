import OpStack.Proofs.Settings.Members

/-!
# OpStack.Proofs.Settings.Sections

The single settings in a JSON document: how it says their values (`Setting.tree`), and in which
sections it has them.

Both sections are read alike (`Section.field`), and the two that are read are all of them
(`sections_eq`).  The fields of a section are its settings: each reads the value of one setting and
changes that setting (`Serves`), and each setting with the title of the section has its field
(`Section.Lawful`).
-/

namespace OpStack

open Document Document.Json

/-! ## Values -/

namespace Settings

theorem readText_eq_ok_iff {d : Draft} {s : String} : readText d = .ok s ↔ d = .text s := by
  cases d <;> simp [readText]

theorem readFlag_eq_ok_iff {d : Draft} {b : Bool} : readFlag d = .ok b ↔ d = .flag b := by
  cases d <;> simp [readFlag]

theorem formatNamed_eq_ok_iff {name : String} {v : LogFormat} :
    formatNamed name = .ok v ↔ name = v.word := by
  rw [formatNamed]
  split
  · next h => cases v <;> simp [h, LogFormat.word]
  split
  · next h => cases v <;> simp [h, LogFormat.word]
  · next hjson hpretty => cases v <;> simp [hjson, hpretty, LogFormat.word]

/-- A format is given by its word, or by a table with nothing else in it. -/
theorem eq_of_readFormat {d : Draft} {v : LogFormat} (h : readFormat .json d = .ok v) :
    d = .text v.word ∨ d = .table [(.text v.word, .null)] := by
  cases d with
  | text name => exact .inl (congrArg Draft.text (formatNamed_eq_ok_iff.mp h))
  | table members =>
      cases members with
      | nil => contradiction
      | cons m rest =>
          obtain ⟨key, value⟩ := m
          cases key with
          | text name =>
              cases hname : formatNamed name with
              | error e => rw [readFormat, hname] at h; contradiction
              | ok u =>
                  rw [readFormat, hname] at h
                  obtain rfl := formatNamed_eq_ok_iff.mp hname
                  cases value with
                  | null =>
                      cases rest with
                      | nil => cases h; exact .inr rfl
                      | cons _ _ => contradiction
                  | _ => contradiction
          | _ => contradiction
  | _ => contradiction

end Settings

namespace Setting

open Settings

/-- No two settings have the same name in documents. -/
theorem field_inj {i j : Setting} (h : i.field = j.field) : i = j := by
  cases i <;> cases j <;> simp_all [field]

/-- How a JSON document says a value. -/
def tree : (i : Setting) → i.Value → Tree
  | stackId, v | level, v => .text v
  | instrument, v | enabled, v | ansiEnabled, v | includeLocation, v => .flag v
  | format, v => .text v.word

/-- No setting is given by a list. -/
theorem tree_ne_list (i : Setting) (v : i.Value) (items : List Tree) : i.tree v ≠ .list items := by
  cases i <;> simp [tree]

/-- No setting is given by a table. -/
theorem tree_ne_table (i : Setting) (v : i.Value) (ms : List (String × Tree)) :
    i.tree v ≠ .table ms := by
  cases i <;> simp [tree]

def decode : (i : Setting) → Draft → Except Flaw i.Value
  | stackId, d | level, d => readText d
  | instrument, d | enabled, d | ansiEnabled, d | includeLocation, d => readFlag d
  | format, d => readFormat .json d

/-- The tree of a value says this value. -/
theorem decode_tree (i : Setting) (v : i.Value) : i.decode (i.tree v).draft = .ok v := by
  cases i with
  | format => exact formatNamed_eq_ok_iff.mpr rfl
  | _ => rfl

/-- Nothing else says the value, apart from a table for a format. -/
theorem eq_tree_of_decode {i : Setting} {t : Tree} {v : i.Value}
    (hformat : i = .format → ∀ ms, t ≠ .table ms) (h : i.decode t.draft = .ok v) :
    t = i.tree v := by
  cases i with
  | stackId | level => exact Tree.eq_text_of_draft (readText_eq_ok_iff.mp h)
  | instrument | enabled | ansiEnabled | includeLocation =>
      exact Tree.eq_flag_of_draft (readFlag_eq_ok_iff.mp h)
  | format =>
      rcases eq_of_readFormat h with hname | htable
      · exact Tree.eq_text_of_draft hname
      · obtain ⟨ms, rfl, -⟩ := Tree.eq_table_of_draft htable
        exact absurd rfl (hformat rfl ms)

/-- What is decoded was not cut off. -/
theorem whole_of_decode {i : Setting} {d : Draft} {v : i.Value} (h : i.decode d = .ok v) :
    ¬ d.Cut := by
  cases i with
  | stackId | level => rw [readText_eq_ok_iff.mp h]; rintro ⟨⟩
  | instrument | enabled | ansiEnabled | includeLocation =>
      rw [readFlag_eq_ok_iff.mp h]; rintro ⟨⟩
  | format =>
      rcases eq_of_readFormat h with rfl | rfl
      · rintro ⟨⟩
      · rintro (_ | _ | ⟨hmem, hcut⟩)
        cases List.mem_singleton.mp hmem
        cases hcut

end Setting

namespace Settings

/-! ## Sections -/

/-- A section: its title, the name of its type, its fields with what they start from, and its place
in the settings. -/
structure Section where
  Content : Type
  title : String
  label : String
  fields : List (Field Content)
  start : Content
  put : Settings → Content → Settings

namespace Section

def stack : Section where
  Content := StackSettings
  title := "stack"
  label := "StackConfig"
  fields := stackFields
  start := {}
  put s x := { s with stack := x }

def logging : Section where
  Content := LoggingSettings
  title := "logging"
  label := "LoggingConfig"
  fields := loggingFields .json
  start := {}
  put s x := { s with logging := x }

/-- The section as a field of the document. -/
def field (p : Section) : Field Settings where
  name := p.title
  read d s := do return p.put s (← readSection .json p.label p.fields p.start d)

/-- The field reads the value of the setting, and changes that setting. -/
structure Serves (p : Section) (f : Field p.Content) (i : Setting) : Prop where
  name : f.name = i.field
  read : ∀ s d x, (f.read d x).map (p.put s) = (i.decode d).map (i.set (p.put s x))

/-- The fields are those of the settings with the title of the section. -/
structure Lawful (p : Section) : Prop where
  served : ∀ f ∈ p.fields, ∃ i : Setting, i.title = p.title ∧ p.Serves f i
  serving : ∀ i : Setting, i.title = p.title →
    ∃ f, field? p.fields i.field = some f ∧ p.Serves f i
  get_start : ∀ s (i : Setting), i.title = p.title → i.get (p.put s p.start) = i.get {}
  get_put : ∀ s x (i : Setting), i.title ≠ p.title → i.get (p.put s x) = i.get s

theorem map_read {σ α : Type} (r : Except Flaw α) (write : α → σ) (put : σ → Settings) :
    (do return write (← r) : Except Flaw σ).map put = r.map fun v => put (write v) := by
  cases r <;> rfl

/-- Every field of the stack section is that of a setting. -/
theorem stackFields_serve {f : Field StackSettings} (hf : f ∈ stackFields) :
    ∃ i : Setting, i.title = "stack" ∧ stack.Serves f i := by
  simp only [stackFields, List.mem_cons, List.not_mem_nil, or_false] at hf
  rcases hf with rfl | rfl
  · exact ⟨.stackId, rfl, rfl, fun _ _ _ => map_read _ _ _⟩
  · exact ⟨.instrument, rfl, rfl, fun _ _ _ => map_read _ _ _⟩

/-- Every field of the logging section is that of a setting. -/
theorem loggingFields_serve {f : Field LoggingSettings} (hf : f ∈ loggingFields .json) :
    ∃ i : Setting, i.title = "logging" ∧ logging.Serves f i := by
  simp only [loggingFields, List.mem_cons, List.not_mem_nil, or_false] at hf
  rcases hf with rfl | rfl | rfl | rfl | rfl
  · exact ⟨.enabled, rfl, rfl, fun _ _ _ => map_read _ _ _⟩
  · exact ⟨.level, rfl, rfl, fun _ _ _ => map_read _ _ _⟩
  · exact ⟨.format, rfl, rfl, fun _ _ _ => map_read _ _ _⟩
  · exact ⟨.ansiEnabled, rfl, rfl, fun _ _ _ => map_read _ _ _⟩
  · exact ⟨.includeLocation, rfl, rfl, fun _ _ _ => map_read _ _ _⟩

/-- The stack section puts each of its settings in its place. -/
theorem lawful_stack : stack.Lawful where
  served _ hf := stackFields_serve hf
  serving i hi := by
    cases i with
    | stackId | instrument => exact ⟨_, rfl, rfl, fun _ _ _ => map_read _ _ _⟩
    | _ => exact absurd hi (by decide)
  get_start _ _ hi := Setting.get_of_title_stack hi rfl
  get_put _ _ i hi := Setting.get_of_title_logging (i.title_eq.resolve_left hi) rfl

/-- The logging section puts each of its settings in its place. -/
theorem lawful_logging : logging.Lawful where
  served _ hf := loggingFields_serve hf
  serving i hi := by
    cases i with
    | stackId | instrument => exact absurd hi (by decide)
    | _ => exact ⟨_, rfl, rfl, fun _ _ _ => map_read _ _ _⟩
  get_start _ _ hi := Setting.get_of_title_logging hi rfl
  get_put _ _ i hi := Setting.get_of_title_stack (i.title_eq.resolve_right hi) rfl

/-! ## Reading a section -/

variable {p : Section} {f : Field p.Content} {i : Setting} {d : Draft} {x y : p.Content}
  {inner : List (String × Tree)}

/-- What a field reads is what its setting is set to. -/
theorem Serves.set_of_read (hf : p.Serves f i) (h : f.read d x = .ok y) (s : Settings) :
    ∃ v, i.decode d = .ok v ∧ p.put s y = i.set (p.put s x) v := by
  have hread := hf.read s d x
  rw [h] at hread
  cases hv : i.decode d with
  | error e => rw [hv] at hread; cases hread
  | ok v =>
      rw [hv] at hread
      exact ⟨v, rfl, Except.ok.inj hread⟩

/-- A field reads what its setting can decode. -/
theorem Serves.read_of_decode (hf : p.Serves f i) {v : i.Value} (h : i.decode d = .ok v)
    (x : p.Content) : ∃ y, f.read d x = .ok y := by
  have hread := hf.read {} d x
  rw [h] at hread
  cases hy : f.read d x with
  | error e => rw [hy] at hread; cases hread
  | ok y => exact ⟨y, rfl⟩

/-- What a table may say as the section of a title: settings with that title, each once, and for
each a value of it. -/
structure Fits (title : String) (inner : List (String × Tree)) : Prop where
  once : (inner.map Prod.fst).Nodup
  known : ∀ m ∈ inner, ∃ (i : Setting) (v : i.Value), i.title = title ∧ m = (i.field, i.tree v)

namespace Lawful

variable (hp : p.Lawful)
include hp

/-- A section that is read was not cut off. -/
theorem whole (h : readSection .json p.label p.fields x d = .ok y) : ¬ d.Cut := by
  refine readSection_whole (fun f hf e x y hread => ?_) h
  obtain ⟨i, -, hserves⟩ := hp.served f hf
  obtain ⟨v, hv, -⟩ := hserves.set_of_read hread {}
  exact Setting.whole_of_decode hv

/-- A section that is read has nothing but values of its settings. -/
theorem fits (hformat : p.title = Setting.format.title →
      ∀ ms, (Setting.format.field, Tree.table ms) ∉ inner)
    (h : readTable p.fields x inner = .ok y) : Fits p.title inner := by
  obtain ⟨honce, hknown⟩ := readTable_sound h
  refine ⟨honce, fun (name, t) hm => ?_⟩
  obtain ⟨f, hf, rfl, x', y', hread⟩ := hknown _ _ hm
  obtain ⟨i, hi, hserves⟩ := hp.served f hf
  obtain ⟨v, hv, -⟩ := hserves.set_of_read hread {}
  have ht : t = i.tree v := by
    refine Setting.eq_tree_of_decode ?_ hv
    rintro rfl ms rfl
    exact hformat hi.symm ms (hserves.name ▸ hm)
  exact ⟨i, v, hi, by rw [ht, hserves.name]⟩

/-- A section with values of its settings is read. -/
theorem read_of_fits (h : Fits p.title inner) (x : p.Content) :
    ∃ y, readTable p.fields x inner = .ok y := by
  refine readTable_complete h.once (fun name t hm => ?_) x
  obtain ⟨i, v, hi, heq⟩ := h.known _ hm
  cases heq
  obtain ⟨f, hf, hserves⟩ := hp.serving i hi
  exact ⟨f, hf, hserves.read_of_decode (i.decode_tree v)⟩

/-- A setting that is given gets its value. -/
theorem get_of_given (hi : i.title = p.title) {v : i.Value} (hmem : (i.field, i.tree v) ∈ inner)
    (h : readTable p.fields x inner = .ok y) (s : Settings) : i.get (p.put s y) = v := by
  refine readTable_gives (P := fun z => i.get (p.put s z) = v) h hmem ?_ ?_
  · intro f hf hname x y hread
    obtain ⟨j, hj, hserves⟩ := hp.served f hf
    obtain rfl : j = i := Setting.field_inj (hserves.name.symm.trans hname)
    obtain ⟨u, hu, hput⟩ := hserves.set_of_read hread s
    rw [j.decode_tree v] at hu
    rw [hput, Setting.get_set_self, Except.ok.inj hu]
  · intro f hf hname e x y hx hread
    obtain ⟨j, -, hserves⟩ := hp.served f hf
    have hne : i ≠ j := by
      rintro rfl
      exact hname hserves.name
    obtain ⟨u, -, hput⟩ := hserves.set_of_read hread s
    rw [hput, Setting.get_set_of_ne hne]
    exact hx

/-- A setting that is missing keeps its default. -/
theorem get_of_missing (hi : i.title = p.title) (hmissing : i.field ∉ inner.map Prod.fst)
    (h : readTable p.fields p.start inner = .ok y) (s : Settings) :
    i.get (p.put s y) = i.get {} := by
  refine readTable_keeps (P := fun z => i.get (p.put s z) = i.get {}) ?_ (hp.get_start s i hi) h
  intro f hf t hmem x y hx hread
  obtain ⟨j, -, hserves⟩ := hp.served f hf
  have hne : i ≠ j := by
    rintro rfl
    exact hmissing (hserves.name ▸ List.mem_map_of_mem hmem)
  obtain ⟨u, -, hput⟩ := hserves.set_of_read hread s
  rw [hput, Setting.get_set_of_ne hne]
  exact hx

end Lawful

/-! ## All sections -/

/-- A section that is read from a value other than a list is a table. -/
theorem table_of_read {p : Section} {t : Tree} {s u : Settings}
    (h : p.field.read t.draft s = .ok u) (hlist : ∀ items, t ≠ .list items) :
    ∃ inner y, t = .table inner ∧
      readTable p.fields p.start inner = .ok y ∧ u = p.put s y := by
  obtain ⟨y, hread, rfl⟩ := exists_of_read h
  cases hd : t.draft with
  | table ds =>
      obtain ⟨inner, rfl, rfl⟩ := Tree.eq_table_of_draft hd
      rw [hd] at hread
      exact ⟨inner, y, rfl, hread, rfl⟩
  | list ds =>
      obtain ⟨items, rfl⟩ := Tree.eq_list_of_draft hd
      exact absurd rfl (hlist items)
  | _ => rw [hd] at hread; contradiction

def all : List Section := [stack, logging]

/-- A section goes to its place among the settings. -/
theorem read_table (p : Section) {inner : List (String × Tree)} {y : p.Content}
    (h : readTable p.fields p.start inner = .ok y) (s : Settings) :
    p.field.read (Tree.table inner).draft s = .ok (p.put s y) := by
  have hread : readSection .json p.label p.fields p.start (Tree.table inner).draft = .ok y := h
  simp only [field, hread]
  rfl

/-- Both sections are lawful. -/
theorem lawful_of_mem {p : Section} (hp : p ∈ all) : p.Lawful := by
  simp only [all, List.mem_cons, List.not_mem_nil, or_false] at hp
  rcases hp with rfl | rfl
  · exact lawful_stack
  · exact lawful_logging

theorem sections_eq : sections .json = all.map field := rfl

theorem exists_of_mem_sections {f : Settings.Field Settings} (hf : f ∈ sections .json) :
    ∃ p ∈ all, p.field = f := by
  rw [sections_eq] at hf
  exact List.mem_map.mp hf

theorem title_mem {p : Section} (hp : p ∈ all) : p.title ∈ Setting.titles :=
  List.mem_map_of_mem (f := Section.title) hp

theorem exists_of_title {title : String} (h : title ∈ Setting.titles) :
    ∃ p ∈ all, p.title = title ∧ field? (sections .json) title = some p.field := by
  simp only [Setting.titles, List.mem_cons, List.not_mem_nil, or_false] at h
  rcases h with rfl | rfl
  · exact ⟨stack, by simp [all], rfl, rfl⟩
  · exact ⟨logging, by simp [all], rfl, rfl⟩

end Section

end Settings

end OpStack
