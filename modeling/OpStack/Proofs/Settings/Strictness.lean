import OpStack.Proofs.Document.Reordering
import OpStack.Proofs.Settings.Layering
import OpStack.Proofs.Settings.Printing

/-!
# OpStack.Proofs.Settings.Strictness

Which JSON documents are settings, and which settings they are.

A document is a table of members, in any order and with any names, written in any way.  `Fits` is
the shape that settings have; `Gives` and `LeavesOut` say what a document has of a setting.

* `fits_of_read`, `read_of_fits`: tables that fit are read, and no others.
* `get_of_gives`, `get_of_leavesOut`: what is given is taken, what is left out has its default.
* `readRoot_reordered`: the order of members does not matter.
* `strict_decoding`: the layers that are documents behave so.
-/

namespace OpStack.Settings

open Document Document.Json

variable {members others : List (String × Tree)} {s t : Settings} {i : Setting} {v : i.Value}

/-! ## Documents -/

/-- Sections come as tables, not as lists, and the format comes as a name, not as a table. -/
structure ByName (members : List (String × Tree)) : Prop where
  sections : ∀ title ∈ Setting.titles, ∀ items, (title, .list items) ∉ members
  format : ∀ inner, (Setting.format.title, .table inner) ∈ members →
    ∀ ms, (Setting.format.field, .table ms) ∉ inner

/-- The members are sections, each once, and these have settings, each once, and values of them. -/
structure Fits (members : List (String × Tree)) : Prop where
  once : (members.map Prod.fst).Nodup
  known : ∀ m ∈ members, m.1 ∈ Setting.titles ∧
    ∃ inner, m.2 = .table inner ∧ Section.Fits m.1 inner

/-- A section has the value for the setting. -/
def Gives (members : List (String × Tree)) (i : Setting) (v : i.Value) : Prop :=
  ∃ inner, (i.title, .table inner) ∈ members ∧ (i.field, i.tree v) ∈ inner

/-- There is no section for the setting, or the setting is not in it. -/
def LeavesOut (members : List (String × Tree)) (i : Setting) : Prop :=
  ∀ inner, (i.title, .table inner) ∈ members → i.field ∉ inner.map Prod.fst

/-- A setting is given or left out. -/
theorem Fits.gives_or_leavesOut (h : Fits members) (i : Setting) :
    (∃ v, Gives members i v) ∨ LeavesOut members i := by
  by_cases hgives : ∃ v, Gives members i v
  · exact .inl hgives
  · right
    intro inner hinner hfield
    obtain ⟨m, hm, hname⟩ := List.mem_map.mp hfield
    obtain ⟨-, _, ⟨rfl⟩, hfits⟩ := h.known _ hinner
    obtain ⟨j, v, -, rfl⟩ := hfits.known m hm
    obtain rfl : j = i := Setting.field_inj hname
    exact hgives ⟨v, inner, hinner, hm⟩

/-! ## Tables of sections -/

def readRoot (members : List (String × Tree)) : Except Flaw Settings :=
  readTable (sections .json) {} members

/-- What is read fits the sections. -/
theorem fits_of_read (hnamed : ByName members) (h : readRoot members = .ok s) : Fits members := by
  obtain ⟨honce, hknown⟩ := readTable_sound h
  refine ⟨honce, fun (name, t) hm => ?_⟩
  obtain ⟨f, hf, rfl, x, y, hread⟩ := hknown _ _ hm
  obtain ⟨p, hp, rfl⟩ := Section.exists_of_mem_sections hf
  have htitle : p.title ∈ Setting.titles := Section.title_mem hp
  have hlist : ∀ items, t ≠ .list items := by
    rintro items rfl
    exact hnamed.sections _ htitle items hm
  obtain ⟨inner, z, rfl, hinner, -⟩ := Section.table_of_read hread hlist
  refine ⟨htitle, inner, rfl, (Section.lawful_of_mem hp).fits (fun hformat => ?_) hinner⟩
  exact hnamed.format inner (hformat ▸ hm)

/-- What fits the sections is read. -/
theorem read_of_fits (h : Fits members) : ∃ s, readRoot members = .ok s := by
  refine readTable_complete h.once (fun name t hm => ?_) ({} : Settings)
  obtain ⟨htitle, inner, rfl, hfits⟩ := h.known _ hm
  obtain ⟨p, hp, rfl, hfield⟩ := Section.exists_of_title htitle
  obtain ⟨y, hy⟩ := (Section.lawful_of_mem hp).read_of_fits hfits p.start
  exact ⟨p.field, hfield, fun x => ⟨p.put x y, p.read_table hy x⟩⟩

/-- A setting that is given has its value. -/
theorem get_of_gives (h : readRoot members = .ok s) (hgives : Gives members i v) :
    i.get s = v := by
  obtain ⟨inner, hsection, hvalue⟩ := hgives
  refine readTable_gives (P := fun s => i.get s = v) h hsection ?_ ?_
  · intro f hf hname x y hread
    obtain ⟨p, hp, rfl⟩ := Section.exists_of_mem_sections hf
    obtain ⟨_, z, ⟨rfl⟩, hinner, rfl⟩ := Section.table_of_read hread (by simp)
    exact (Section.lawful_of_mem hp).get_of_given hname.symm hvalue hinner x
  · intro f hf hname e x y hx hread
    obtain ⟨p, hp, rfl⟩ := Section.exists_of_mem_sections hf
    obtain ⟨z, -, rfl⟩ := exists_of_read hread
    exact ((Section.lawful_of_mem hp).get_put x z i (Ne.symm hname)).trans hx

/-- A setting that is left out has its default. -/
theorem get_of_leavesOut (hnamed : ByName members) (h : readRoot members = .ok s)
    (hout : LeavesOut members i) : i.get s = i.get {} := by
  refine readTable_keeps (P := fun s => i.get s = i.get {}) ?_ rfl h
  intro f hf t hm x y hx hread
  obtain ⟨p, hp, rfl⟩ := Section.exists_of_mem_sections hf
  have hlist : ∀ items, t ≠ .list items := by
    rintro items rfl
    exact hnamed.sections _ (Section.title_mem hp) items hm
  obtain ⟨inner, z, rfl, hinner, rfl⟩ := Section.table_of_read hread hlist
  by_cases htitle : i.title = p.title
  · have hmissing : i.field ∉ inner.map Prod.fst := hout inner (htitle ▸ hm)
    exact (Section.lawful_of_mem hp).get_of_missing htitle hmissing hinner x
  · exact ((Section.lawful_of_mem hp).get_put x z i htitle).trans hx

/-! ## The order of members -/

/-- Reordered members fit a section as before. -/
theorem Section.Fits.reordered {title : String} {inner others : List (String × Tree)}
    (hfits : Section.Fits title inner) (h : Reordered (.table inner) (.table others)) :
    Section.Fits title others := by
  refine ⟨h.names.nodup_iff.mp hfits.once, fun (name, w) hw => ?_⟩
  obtain ⟨t, ht, hwt⟩ := h.symm.exists_of_mem hw
  obtain ⟨i, v, hi, heq⟩ := hfits.known _ ht
  cases heq
  exact ⟨i, v, hi, by rw [hwt.symm.eq_of_scalar (i.tree_ne_list v) (i.tree_ne_table v)]⟩

section Order

variable (h : Reordered (.table members) (.table others))
include h

theorem Fits.reordered (hfits : Fits members) : Fits others := by
  refine ⟨h.names.nodup_iff.mp hfits.once, fun (name, w) hw => ?_⟩
  obtain ⟨t, ht, hwt⟩ := h.symm.exists_of_mem hw
  obtain ⟨htitle, inner, rfl, hinner⟩ := hfits.known _ ht
  obtain ⟨inner', rfl, -⟩ := hwt.symm.table rfl
  exact ⟨htitle, inner', rfl, hinner.reordered hwt.symm⟩

/-- Reordered members are named as before. -/
theorem ByName.reordered (hnamed : ByName members) : ByName others where
  sections title htitle items hitems := by
    obtain ⟨t, ht, hlist⟩ := h.symm.exists_of_mem hitems
    obtain ⟨items', rfl⟩ := hlist.list rfl
    exact hnamed.sections title htitle items' ht
  format inner hinner ms hms := by
    obtain ⟨inner', hinner', hback⟩ := h.symm.exists_table_of_mem hinner
    obtain ⟨ms', hms', -⟩ := hback.exists_table_of_mem hms
    exact hnamed.format inner' hinner' ms' hms'

theorem Gives.reordered (hgives : Gives members i v) : Gives others i v := by
  obtain ⟨inner, hinner, hvalue⟩ := hgives
  obtain ⟨inner', hinner', hsection⟩ := h.exists_table_of_mem hinner
  obtain ⟨w, hw, hvw⟩ := hsection.exists_of_mem hvalue
  obtain rfl := hvw.eq_of_scalar (i.tree_ne_list v) (i.tree_ne_table v)
  exact ⟨inner', hinner', hw⟩

theorem LeavesOut.reordered (hout : LeavesOut members i) : LeavesOut others i := by
  intro inner hinner hfield
  obtain ⟨inner', hinner', hback⟩ := h.symm.exists_table_of_mem hinner
  exact hout inner' hinner' (hback.names.mem_iff.mp hfield)

/-- Members in another order are read as the same settings. -/
theorem readRoot_reordered (hnamed : ByName members) (hread : readRoot members = .ok s) :
    readRoot others = .ok s := by
  have hfits : Fits members := fits_of_read hnamed hread
  obtain ⟨t, ht⟩ := read_of_fits (hfits.reordered h)
  have hst : s = t := by
    refine Setting.eq_of_get fun i => ?_
    rcases hfits.gives_or_leavesOut i with ⟨v, hgives⟩ | hout
    · rw [get_of_gives hread hgives, get_of_gives ht (hgives.reordered h)]
    · rw [get_of_leavesOut hnamed hread hout,
        get_of_leavesOut (hnamed.reordered h) ht (hout.reordered h)]
  rw [hst, ht]

end Order

/-! ## Texts -/

/-- A table is decoded as the settings it holds. -/
theorem decode_table (members : List (String × Tree)) :
    decode .json ⟨(Tree.table members).draft, true⟩ = readRoot members := by
  have hsection : readSection .json "StrataConfig" (sections .json) {}
      (Tree.table members).draft = readRoot members := rfl
  rw [decode]
  simp only [hsection]
  cases readRoot members <;> rfl

/-- What is decoded was read to its end. -/
theorem whole_of_decode {doc : Document} (h : decode .json doc = .ok s) : ¬ doc.root.Cut := by
  rw [decode] at h
  cases hread : readSection .json "StrataConfig" (sections .json) {} doc.root with
  | error e => rw [hread] at h; contradiction
  | ok t =>
      refine readSection_whole (fun f hf e x y he => ?_) hread
      obtain ⟨p, hp, rfl⟩ := Section.exists_of_mem_sections hf
      obtain ⟨z, hz, -⟩ := exists_of_read he
      exact (Section.lawful_of_mem hp).whole hz

/-- A text is read as the members that it says. -/
theorem decode_read_eq_ok_iff {text : String} (h : (Tree.table members).Written text) :
    decode .json (Json.read text) = .ok s ↔ readRoot members = .ok s := by
  rw [← decode_table]
  rcases h.read_eq with heq | ⟨hcut, hcut'⟩
  · rw [heq]
  · exact ⟨fun hok => absurd hcut' (whole_of_decode hok),
      fun hok => absurd hcut (whole_of_decode hok)⟩

/-- A document with a named dialect is decoded as one in it. -/
theorem add_document (files : FileTree) (l : Loader) (text : String) :
    l.add files (.document text "json") =
      match decode .json (Json.read text) with
      | .ok s => .ok { l with settings := s }
      | .error flaw => .error (.json flaw) := by
  have hformat : Text.lower "json" = Dialect.json.name := rfl
  rw [Loader.add, ofText_of_lower hformat, Dialect.read]
  cases decode .json (Json.read text) <;> rfl

/-! ## Printed settings -/

/-- The members of a section fit it. -/
theorem fits_titled (s : Settings) (title : String) :
    Section.Fits title ((titled title).map fun i => (i.field, i.tree (i.get s))) := by
  have hfields : (Setting.all.map Setting.field).Nodup := by decide
  refine ⟨?_, fun m hm => ?_⟩
  · rw [List.map_map]
    exact (List.filter_sublist.map Setting.field).nodup hfields
  · obtain ⟨i, hi, rfl⟩ := List.mem_map.mp hm
    have htitle : i.title = title := by simpa using (List.mem_filter.mp hi).2
    exact ⟨i, i.get s, htitle, rfl⟩

/-- The members of the settings fit the sections. -/
theorem fits_members (s : Settings) : Fits s.members := by
  have hnames : s.members.map Prod.fst = Setting.titles := rfl
  refine ⟨by rw [hnames]; decide, fun m hm => ?_⟩
  obtain ⟨title, htitle, rfl⟩ := List.mem_map.mp hm
  exact ⟨htitle, _, rfl, fits_titled s title⟩

/-- The members of the settings give each its value. -/
theorem gives_members (s : Settings) (i : Setting) : Gives s.members i (i.get s) := by
  have htitle : i.title ∈ Setting.titles := by cases i <;> decide
  have hi : i ∈ titled i.title := List.mem_filter.mpr ⟨i.mem_all, by simp⟩
  exact ⟨_, List.mem_map.mpr ⟨i.title, htitle, rfl⟩, List.mem_map.mpr ⟨i, hi, rfl⟩⟩

/-! ## Documents as layers -/

/-- A JSON document is taken if it fits, whatever the order of its members and the way it is
written; then what it gives is taken and what it leaves out has its default.  Otherwise it is at
fault as JSON.  Printed settings come back. -/
theorem strict_decoding (files : FileTree) (l : Loader) {text : String}
    (htext : (Tree.table members).Written text) (hnamed : ByName members) :
    (Fits members → ∃ s, l.add files (.document text "json") = .ok { l with settings := s } ∧
      (∀ (i : Setting) v, Gives members i v → i.get s = v) ∧
      ∀ i : Setting, LeavesOut members i → i.get s = i.get {}) ∧
    (¬ Fits members → ∃ flaw, l.add files (.document text "json") = .error (.json flaw)) ∧
    (∀ t other, Reordered (.table members) t → t.Written other →
      (l.add files (.document other "json")).toOption =
        (l.add files (.document text "json")).toOption) ∧
    ∀ s : Settings, l.add files (.document s.print "json") = .ok { l with settings := s } := by
  refine ⟨fun hfits => ?_, fun hmisfit => ?_, fun t other hreordered hother => ?_, fun s => ?_⟩
  · obtain ⟨s, hs⟩ := read_of_fits hfits
    refine ⟨s, ?_, fun i v => get_of_gives hs, fun i => get_of_leavesOut hnamed hs⟩
    rw [add_document, (decode_read_eq_ok_iff htext).mpr hs]
  · cases hread : decode .json (Json.read text) with
    | ok s => exact absurd (fits_of_read hnamed ((decode_read_eq_ok_iff htext).mp hread)) hmisfit
    | error flaw => exact ⟨flaw, by rw [add_document, hread]⟩
  -- Both documents are settings or neither is; the faults may be different ones.
  · obtain ⟨others, rfl, -⟩ := hreordered.table rfl
    have hsame : ∀ s, decode .json (Json.read other) = .ok s ↔
        decode .json (Json.read text) = .ok s := by
      intro s
      rw [decode_read_eq_ok_iff hother, decode_read_eq_ok_iff htext]
      exact ⟨readRoot_reordered hreordered.symm (hnamed.reordered hreordered),
        readRoot_reordered hreordered hnamed⟩
    rw [add_document, add_document]
    cases hread : decode .json (Json.read text) with
    | ok s => rw [(hsame s).mpr hread]
    | error flaw =>
        cases hread' : decode .json (Json.read other) with
        | ok s => rw [(hsame s).mp hread'] at hread; contradiction
        | error flaw' => rfl
  · obtain ⟨t, ht⟩ := read_of_fits (fits_members s)
    have hst : t = s := Setting.eq_of_get fun i => get_of_gives ht (gives_members s i)
    rw [add_document, (decode_read_eq_ok_iff (written_print s)).mpr ht, hst]

/-- A level alone, with blanks and with a character by its code, sets the level alone. -/
theorem strict_decoding_level :
    ∃ s : Settings,
      ({} : Loader).add []
          (.document "\x7b \"logging\": \x7b\"level\": \"w\\u0061rn\"\x7d \x7d" "json") =
        .ok { settings := s } ∧
      s.logging.level = "warn" ∧ s.stack.id = "strata-stack" := by
  have hcode : Hex4 ['0', '0', '6', '1'] 'a'.toNat :=
    have hdigit : ∀ n < 16, HexDigit (Nat.digitChar n) n := fun _ => hexDigit_digitChar
    .mk (hdigit 0 (by decide)) (hdigit 0 (by decide)) (hdigit 6 (by decide)) (hdigit 1 (by decide))
  have hwarn : SpellsAll "warn".toList "w\\u0061rn".toList :=
    .cons (spells_printChar 'w') (.cons (.code hcode)
      (.cons (spells_printChar 'r') (.cons (spells_printChar 'n') .nil)))
  have htext : (Tree.table [("logging", .table [("level", .text "warn")])]).Written
      "\x7b \"logging\": \x7b\"level\": \"w\\u0061rn\"\x7d \x7d" :=
    .mark '\x7b' (.blank (by decide) (.lexeme (spelled_printText "logging") (.mark ':'
      (.blank (by decide) (.mark '\x7b' (.lexeme (spelled_printText "level") (.mark ':'
        (.blank (by decide) (.lexeme (.text hwarn) (.mark '\x7d'
          (.blank (by decide) (.mark '\x7d' .nil))))))))))))
  have hnamed : ByName [("logging", .table [("level", .text "warn")])] := by
    constructor <;> simp [Setting.titles, Setting.field]
  have hfits : Fits [("logging", .table [("level", .text "warn")])] := by
    have hlevel : Section.Fits "logging" [("level", .text "warn")] := by
      refine ⟨by decide, fun m hm => ?_⟩
      rw [List.mem_singleton.mp hm]
      exact ⟨.level, "warn", rfl, rfl⟩
    refine ⟨by decide, fun m hm => ?_⟩
    rw [List.mem_singleton.mp hm]
    exact ⟨by decide, _, rfl, hlevel⟩
  obtain ⟨s, hs, hgiven, hdefault⟩ := (strict_decoding [] {} htext hnamed).1 hfits
  exact ⟨s, hs, hgiven .level "warn" ⟨_, List.mem_singleton_self _, List.mem_singleton_self _⟩,
    hdefault .stackId (by simp [LeavesOut, Setting.title])⟩

end OpStack.Settings
