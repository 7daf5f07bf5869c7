import OpStack.Logging.Directive
import OpStack.Proofs.Settings.Defaults
import OpStack.Settings.Loader

/-!
# OpStack.Proofs.Settings.Layering

What layers of settings come to.

* `Layer.alone`: the settings that a layer makes, whatever was before it (`add_eq`).
* `base`: those of the last layer that makes any, and nothing of the layers before.
* `addAll_sound`: layers that can be added leave the base and the last lead.
* `addAll_eq_fault_iff`: otherwise the first fault ends it.

`layers_settle` says what is loaded in the end.  Variables wait for the end wherever their lead
was given, and only what they leave is validated.
-/

namespace OpStack.Settings

open Document

variable (files : FileTree)

/-! ## One layer -/

namespace Layer

/-- The settings of a loader that has this layer only. -/
def alone (layer : Layer) : Except SettingsError Settings :=
  (({} : Loader).add files layer).map (·.settings)

/-- The layer makes settings; a file that may be missing does so if it is there. -/
def sets : Layer → Bool
  | .preset _ | .document _ _ | .file _ => true
  | .optionalFile path => (files.find? path).isSome
  | .variables _ | .restart | .environmentFile => false

def lead? : Layer → Option String
  | .variables lead => some lead
  | _ => none

/-- What is told when the layer has been added. -/
def told : Layer → List Event
  | .file path => [.fileLoaded path]
  | .optionalFile path => if (files.find? path).isSome then [.fileLoaded path] else []
  | _ => []

/-- The layer neither starts again nor sets variables. -/
def Plain : Layer → Prop
  | .restart | .environmentFile => False
  | _ => True

end Layer

namespace Loader

/-- The loader with a layer on top that makes the settings `s`. -/
def topped (l : Loader) (layer : Layer) (s : Settings) : Loader :=
  { l with
    settings := if layer.sets files then s else l.settings
    lead := (layer.lead?.map Text.upper).or l.lead
    events := l.events ++ layer.told files }

/-- A file sets all settings, whatever was set before. -/
theorem readFile_eq (l : Loader) (path : String) (node : FileNode) :
    l.readFile path node = ((({} : Loader).readFile path node).map (·.settings)).map fun s =>
      { l with settings := s, events := l.events ++ [.fileLoaded path] } := by
  cases node with
  | directory => rfl
  | file content =>
      rw [readFile, readFile]
      cases ofFile path content <;> rfl

/-- What a layer makes and whether it can be added does not depend on what was before it. -/
theorem add_eq (l : Loader) {layer : Layer} (hplain : layer.Plain) :
    l.add files layer = (layer.alone files).map (l.topped files layer) := by
  cases layer with
  | restart | environmentFile => exact absurd hplain id
  | document content format =>
      rw [Layer.alone, add, add]
      cases ofText (some format) content (.unsupportedFormat format) with
      | error e => rfl
      | ok s =>
          show Except.ok { l with settings := s } =
            .ok (l.topped files (.document content format) s)
          simp [topped, Layer.sets, Layer.lead?, Layer.told]
  | file path =>
      rw [Layer.alone, add, add]
      cases files.find? path with
      | none => rfl
      | some node => exact l.readFile_eq path node
  | optionalFile path =>
      rw [Layer.alone, add, add]
      cases hnode : files.find? path with
      | none => simp [topped, Layer.sets, Layer.lead?, Layer.told, Except.map, hnode]
      | some node =>
          have htopped : l.topped files (.optionalFile path) = fun s =>
              { l with settings := s, events := l.events ++ [.fileLoaded path] } := by
            funext s
            simp [topped, Layer.sets, Layer.lead?, Layer.told, hnode]
          rw [htopped]
          exact l.readFile_eq path node
  | _ => simp [add, Layer.alone, topped, Layer.sets, Layer.lead?, Layer.told, Except.map]

/-- A layer fails on its own or not at all. -/
theorem add_eq_fault_iff (l : Loader) {layer : Layer} (hplain : layer.Plain)
    {e : SettingsError} : l.add files layer = .error e ↔ layer.alone files = .error e := by
  rw [l.add_eq files hplain]
  cases layer.alone files <;> simp [Except.map]

end Loader

/-! ## All layers -/

/-- The settings of the last layer that makes any; without one those at the start. -/
def base (start : Settings) (layers : List Layer) : Except SettingsError Settings :=
  ((layers.filter (·.sets files)).getLast?.map (·.alone files)).getD (.ok start)

def lastLead? (layers : List Layer) : Option String := (layers.filterMap Layer.lead?).getLast?

variable {files} {start s : Settings} {layer : Layer}

/-- A layer that sets the settings becomes the base for those after it. -/
theorem base_cons (h : layer.alone files = .ok s) (rest : List Layer) :
    base files start (layer :: rest) =
      base files (if layer.sets files then s else start) rest := by
  rw [base, base, List.filter_cons]
  split
  · rw [List.getLast?_cons]
    cases (rest.filter (·.sets files)).getLast? with
    | none => exact h
    | some last => rfl
  · rfl

/-- The last prefix counts. -/
theorem lastLead?_cons (layer : Layer) (rest : List Layer) :
    lastLead? (layer :: rest) = (lastLead? rest).or layer.lead? := by
  rw [lastLead?, lastLead?, List.filterMap_cons]
  cases layer.lead? with
  | none => exact (Option.or_none).symm
  | some lead =>
      dsimp only
      rw [List.getLast?_cons]
      cases (rest.filterMap Layer.lead?).getLast? <;> rfl

namespace Loader

/-- Layers leave the base and the lead given last. -/
theorem addAll_sound {layers : List Layer} (hplain : ∀ layer ∈ layers, layer.Plain)
    {l m : Loader} {place : Nat} (h : addAll files l place layers = (m, none)) :
    base files l.settings layers = .ok m.settings ∧
      m.lead = ((lastLead? layers).map Text.upper).or l.lead ∧
      m.environment = l.environment := by
  induction layers generalizing l place with
  | nil =>
      cases h
      exact ⟨rfl, rfl, rfl⟩
  | cons layer rest ih =>
      rw [addAll] at h
      have hadd := l.add_eq files (hplain layer List.mem_cons_self)
      cases halone : layer.alone files with
      | error e =>
          rw [halone] at hadd
          rw [hadd] at h
          exact absurd (congrArg Prod.snd h) (Option.some_ne_none _)
      | ok s =>
          rw [halone] at hadd
          rw [hadd] at h
          obtain ⟨hbase, hlead, henvironment⟩ :=
            ih (fun other hother => hplain other (List.mem_cons_of_mem layer hother)) h
          refine ⟨(base_cons halone rest).trans hbase, ?_, henvironment⟩
          rw [hlead, lastLead?_cons, topped]
          cases lastLead? rest <;> rfl

/-- The first fault ends it. -/
theorem addAll_eq_fault_iff {layers : List Layer} {l m : Loader} {place number : Nat}
    {e : SettingsError} :
    addAll files l place layers = (m, some (number, e)) ↔
      ∃ before layer after, layers = before ++ layer :: after ∧
        number = place + before.length ∧
        addAll files l place before = (m, none) ∧ m.add files layer = .error e := by
  induction layers generalizing l place with
  | nil =>
      constructor
      · intro h
        exact absurd (congrArg Prod.snd h).symm (Option.some_ne_none _)
      · rintro ⟨before, layer, after, hlayers, -⟩
        exact absurd hlayers.symm (List.append_ne_nil_of_right_ne_nil before (List.cons_ne_nil _ _))
  | cons first rest ih =>
      rw [addAll]
      cases hadd : l.add files first with
      | error fault =>
          constructor
          · intro h
            cases h
            exact ⟨[], first, rest, rfl, rfl, rfl, hadd⟩
          · rintro ⟨before, layer, after, hlayers, hnumber, hbefore, hfault⟩
            cases before with
            | nil =>
                cases hlayers
                cases hbefore
                rw [hadd] at hfault
                cases hfault
                rw [hnumber]
                rfl
            | cons other before =>
                cases hlayers
                rw [addAll, hadd] at hbefore
                exact absurd (congrArg Prod.snd hbefore) (Option.some_ne_none _)
      | ok u =>
          dsimp only
          rw [ih]
          constructor
          · rintro ⟨before, layer, after, rfl, hnumber, hbefore, hfault⟩
            refine ⟨first :: before, layer, after, rfl, ?_, ?_, hfault⟩
            · rw [hnumber, List.length_cons]
              omega
            · rw [addAll, hadd]
              exact hbefore
          · rintro ⟨before, layer, after, hlayers, hnumber, hbefore, hfault⟩
            cases before with
            | nil =>
                cases hlayers
                cases hbefore
                rw [hadd] at hfault
                contradiction
            | cons other before =>
                cases hlayers
                rw [addAll, hadd] at hbefore
                refine ⟨before, layer, after, rfl, ?_, hbefore, hfault⟩
                rw [hnumber, List.length_cons]
                omega

end Loader

/-! ## Documents in files -/

namespace Dialect

def name : Dialect → String
  | toml => "toml"
  | json => "json"

def read : Dialect → String → Document
  | toml => Toml.read
  | json => Json.read

def fault : Dialect → Flaw → SettingsError
  | toml => .toml
  | json => .json

end Dialect

variable {dialect : Dialect}

/-- A format name that is spelled in some case selects its dialect. -/
theorem ofText_of_lower {format : String} (h : Text.lower format = dialect.name)
    (content : String) (unknown : SettingsError) :
    ofText (some format) content unknown =
      (decode dialect (dialect.read content)).mapError dialect.fault := by
  rw [ofText, Option.map_some, h]
  cases dialect <;> rfl

/-- A file is the document in it, in the format behind the dot; it is told besides. -/
theorem Loader.add_file (l : Loader) {path text ext : String} {content : List UInt8}
    (hfile : files.find? path = some (.file content)) (htext : Text.ofUtf8 content = .ok text)
    (hext : FileTree.extension? path = some ext) (hformat : Text.lower ext = dialect.name) :
    l.add files (.file path) = (l.add files (.document text ext)).map fun m =>
      { m with events := m.events ++ [.fileLoaded path] } := by
  simp only [add, hfile, readFile, ofFile, htext, hext, ofText_of_lower hformat]
  cases (decode dialect (dialect.read text)).mapError dialect.fault <;> rfl

/-- What a document leaves out has its default. -/
theorem Layer.get_of_omitted {content format : String} {i : Setting}
    (hformat : Text.lower format = dialect.name)
    (h : (Layer.document content format).alone files = .ok s)
    (homitted : i.Omitted (dialect.read content).root) : i.get s = i.get {} := by
  rw [alone, Loader.add, ofText_of_lower hformat] at h
  cases hdecode : decode dialect (dialect.read content) with
  | error f => rw [hdecode] at h; contradiction
  | ok t =>
      rw [hdecode] at h
      cases h
      exact Settings.get_of_omitted hdecode homitted

/-! ## What is loaded -/

/-- The changed settings, if they can be used. -/
def Overridden.validated [Logging.FilterReader] (r : Overridden) : Overridden :=
  { r with
    result := do
      let s ← r.result
      s.validate
      return s }

/-- Layers that are added one after the other, with any variables.

If all can be added, the settings are those of the last layer that makes any, as if it were
alone; loading changes these by the variables with the lead given last, in upper case, wherever
it was given, and validates what comes out, so that variables can repair the settings.  Otherwise
the first layer that cannot be added ends it, with the fault that it has alone.  A file is the
document in it.  What a document leaves out has its default. -/
theorem layers_settle [Logging.FilterReader] (files : FileTree) (env : Environment) (layers : List Layer)
    (hplain : ∀ layer ∈ layers, layer.Plain) :
    (∀ l, Loader.addAll files { environment := env } 0 layers = (l, none) →
      ∃ s, base files {} layers = .ok s ∧ l.unvalidated = ⟨.ok s, []⟩ ∧
        l.load = ((lastLead? layers).elim ⟨.ok s, []⟩ fun lead =>
          override (Text.upper lead) s env).validated ∧
        ∀ lead t told, lastLead? layers = some lead →
          override (Text.upper lead) s env = ⟨.ok t, told⟩ → t.validate = .ok () →
          l.load = ⟨.ok t, told⟩) ∧
    (∀ l number e, Loader.addAll files { environment := env } 0 layers = (l, some (number, e)) ↔
      ∃ before layer after, layers = before ++ layer :: after ∧ number = before.length ∧
        Loader.addAll files { environment := env } 0 before = (l, none) ∧
        l.add files layer = .error e ∧ layer.alone files = .error e) ∧
    (∀ (l : Loader) path content text ext (dialect : Dialect),
      files.find? path = some (.file content) → Text.ofUtf8 content = .ok text →
      FileTree.extension? path = some ext → Text.lower ext = dialect.name →
      l.add files (.file path) = (l.add files (.document text ext)).map fun m =>
        { m with events := m.events ++ [.fileLoaded path] }) ∧
    ∀ content format (dialect : Dialect) s (i : Setting), Text.lower format = dialect.name →
      (Layer.document content format).alone files = .ok s →
      i.Omitted (dialect.read content).root → i.get s = i.get {} := by
  refine ⟨?_, ?_, ?_, ?_⟩
  · intro l hadd
    obtain ⟨hbase, hlead, henvironment⟩ := Loader.addAll_sound hplain hadd
    have hload : l.load = ((lastLead? layers).elim ⟨.ok l.settings, []⟩ fun lead =>
        override (Text.upper lead) l.settings env).validated := by
      rw [Loader.load, hlead, henvironment]
      cases lastLead? layers <;> rfl
    refine ⟨l.settings, hbase, rfl, hload, fun lead t told hlast hchanged hvalid => ?_⟩
    rw [hload, hlast, Option.elim_some, hchanged, Overridden.validated]
    simp [hvalid, bind, Except.bind, pure, Except.pure]
  · intro l number e
    rw [Loader.addAll_eq_fault_iff]
    constructor
    · rintro ⟨before, layer, after, rfl, hnumber, hbefore, hfault⟩
      have hlayer := hplain layer (List.mem_append_right before List.mem_cons_self)
      exact ⟨before, layer, after, rfl, hnumber.trans (Nat.zero_add _), hbefore, hfault,
        (l.add_eq_fault_iff files hlayer).mp hfault⟩
    · rintro ⟨before, layer, after, rfl, hnumber, hbefore, hfault, -⟩
      exact ⟨before, layer, after, rfl, hnumber.trans (Nat.zero_add _).symm, hbefore, hfault⟩
  · intro l path content text ext dialect hfile htext hext hformat
    exact l.add_file hfile htext hext hformat
  · intro content format dialect s i hformat hdocument homitted
    exact Layer.get_of_omitted hformat hdocument homitted

/-- A document whose identifier does not show replaces a preset, and a variable repairs it; the
lead was given before both, and a file is not there. -/
theorem layers_settle_repaired :
    let env : Environment := [("APP__STACK__ID", "orders"), ("APP__COLOR", "blue")]
    let layers : List Layer := [.variables "app", .preset development,
      .document "\x7b\"stack\":\x7b\"id\":\" \"\x7d\x7d" "JSON", .optionalFile "missing.toml"]
    ∃ l, Loader.addAll [] { environment := env } 0 layers = (l, none) ∧
      l.unvalidated = ⟨.ok { stack.id := " " }, []⟩ ∧
      ({ stack.id := " " } : Settings).validate =
        .error (.invalidValue "stack.id" "must not be empty") ∧
      l.load = ⟨.ok { stack.id := "orders" }, [.overrideIgnored "APP__COLOR"]⟩ := by
  intro env layers
  have hplain : ∀ layer ∈ layers, layer.Plain := by
    simp [layers, Layer.Plain]
  have hadd : (Loader.addAll [] { environment := env } 0 layers).2 = none := by decide +kernel
  obtain ⟨s, hbase, hunvalidated, hload, -⟩ :=
    (layers_settle [] env layers hplain).1 _ (Prod.ext rfl hadd)
  have hs : (base [] {} layers).toOption = some { stack.id := " " } := by decide +kernel
  rw [hbase] at hs
  cases hs
  exact ⟨_, Prod.ext rfl hadd, hunvalidated, by rfl, by rw [hload]; rfl⟩

end OpStack.Settings
