import OpStack.Logging.Directive
import OpStack.Proofs.Logging.Refusal
import OpStack.Proofs.Settings.Layering
import OpStack.Proofs.Settings.Variables

/-!
# OpStack.Proofs.Settings.Usable

What is loaded can be used.

* `validate_eq_ok_iff`: settings are valid if the identifier of their stack shows and setting
  up their logging would not refuse the level.
* `Loader.load_of_noneWrong`: if no variable is wrong, the changed settings are validated, and
  not those that the layers made.

`loaded_usable` puts both together for any loader.
-/

namespace OpStack.Settings

open Logging

/-! ## Valid settings -/

/-- The identifier of the stack has no character that shows. -/
def Blank (s : Settings) : Prop := ∀ c ∈ s.stackOptions.id.toList, Text.isBlank c = true

variable {s : Settings} {reason : String}

theorem loggingOptions_enabled (s : Settings) : s.loggingOptions.enabled = s.logging.enabled :=
  rfl

theorem loggingOptions_level (s : Settings) : s.loggingOptions.level = s.logging.level :=
  rfl

/-- An identifier that is not blank has a character that is none. -/
theorem not_blank_iff : ¬ s.Blank ↔ ∃ c ∈ s.stackOptions.id.toList, Text.isBlank c = false := by
  simp [Blank]

theorem isBlankText_iff : Text.isBlankText s.stack.id = true ↔ s.Blank := List.all_eq_true

section

variable [FilterReader]

/-- The identifier of the stack shows, and logging is not refused. -/
structure Usable (s : Settings) : Prop where
  shows : ∃ c ∈ s.stackOptions.id.toList, Text.isBlank c = false
  accepted : ∀ reason, ¬ s.loggingOptions.Refused reason

/-- The identifier is looked at first. -/
theorem validate_of_blank (h : s.Blank) :
    s.validate = .error (.invalidValue "stack.id" "must not be empty") := by
  rw [validate, if_pos (isBlankText_iff.mpr h)]

/-- A refused level fails the validation, if the identifier is not blank. -/
theorem validate_of_refused (hblank : ¬ s.Blank) (h : s.loggingOptions.Refused reason) :
    s.validate = .error
      (.invalidValue "logging.level" (SetupError.invalidLevel s.logging.level reason).message) := by
  obtain ⟨henabled, hfilter⟩ := Options.refused_iff.mp h
  rw [loggingOptions_enabled] at henabled
  rw [loggingOptions_level] at hfilter
  rw [validate, if_neg (isBlankText_iff.not.mpr hblank), if_pos henabled, hfilter]

/-- Usable settings pass. -/
theorem Usable.validate_eq (h : s.Usable) : s.validate = .ok () := by
  rw [validate, if_neg (isBlankText_iff.not.mpr (not_blank_iff.mpr h.shows))]
  rcases s.loggingOptions.kinds with hdisabled | ⟨reason, hrefused⟩ | ⟨filter, haccepted⟩
  · rw [loggingOptions_enabled] at hdisabled
    rw [if_neg (Bool.eq_false_iff.mp hdisabled)]
  · exact absurd hrefused (h.accepted reason)
  · obtain ⟨henabled, hfilter⟩ := haccepted
    rw [loggingOptions_enabled] at henabled
    rw [loggingOptions_level] at hfilter
    rw [if_pos henabled, hfilter]

/-- Nothing else is asked of usable settings. -/
theorem usable_iff : s.Usable ↔ ¬ (s.Blank ∨ ∃ reason, s.loggingOptions.Refused reason) := by
  rw [not_or, not_blank_iff, not_exists]
  exact ⟨fun h => ⟨h.shows, h.accepted⟩, fun h => ⟨h.1, h.2⟩⟩

theorem validate_eq_ok_iff : s.validate = .ok () ↔ s.Usable := by
  refine ⟨fun h => usable_iff.mpr ?_, Usable.validate_eq⟩
  rintro (hblank | ⟨reason, hrefused⟩)
  · rw [validate_of_blank hblank] at h
    contradiction
  · by_cases hblank : s.Blank
    · rw [validate_of_blank hblank] at h
      contradiction
    · rw [validate_of_refused hblank hrefused] at h
      contradiction

/-! ## Loading -/

namespace Loader

variable {l : Loader}

/-- No variable is wrong for the lead of the loader; without a lead none can be. -/
def NoneWrong (l : Loader) : Prop :=
  ∀ lead, l.lead = some lead → ∀ v ∈ l.environment, ¬ Wrong lead v

/-- The settings that the layers made, after the changes of all variables. -/
def resulting (l : Loader) : Settings :=
  l.lead.elim l.settings fun lead => l.environment.foldl (changedBy lead) l.settings

/-- To load is to override, if there is a prefix, and then to validate. -/
theorem load_eq (l : Loader) :
    l.load = (l.lead.elim l.unvalidated fun lead =>
      override lead l.settings l.environment).validated := by
  rw [load]
  cases l.lead <;> rfl

/-- The changed settings are validated. -/
theorem load_of_noneWrong (h : l.NoneWrong) :
    l.load.result = l.resulting.validate.map fun _ => l.resulting := by
  have hchanged : (l.lead.elim l.unvalidated fun lead =>
      override lead l.settings l.environment).result = .ok l.resulting := by
    rw [resulting]
    cases hlead : l.lead with
    | none => rfl
    | some lead =>
        rw [Option.elim_some, override_of_sound (h lead hlead)]
        rfl
  rw [load_eq, Overridden.validated]
  dsimp only
  rw [hchanged]
  -- the layers' own settings are gone here, so what they had wrong no longer counts
  show (do l.resulting.validate; return l.resulting) = _
  cases l.resulting.validate <;> rfl

/-- A wrong variable ends it before anything is validated. -/
theorem load_of_wrong (h : ¬ l.NoneWrong) :
    ∃ name reason, l.load.result = .error (.badOverride name reason) := by
  simp only [NoneWrong, not_forall, not_not] at h
  obtain ⟨lead, hlead, hwrong⟩ := h
  obtain ⟨v, -, -, reason, hfault⟩ := override_of_wrong (by simpa using hwrong) l.settings
  refine ⟨v.1, reason, ?_⟩
  rw [load_eq, hlead, Overridden.validated]
  dsimp only [Option.elim_some]
  rw [hfault]
  rfl

/-- What is loaded is usable, and it is the resulting settings. -/
theorem load_eq_ok_iff {c : Settings} :
    l.load.result = .ok c ↔ l.NoneWrong ∧ c = l.resulting ∧ c.Usable := by
  by_cases h : l.NoneWrong
  · rw [load_of_noneWrong h, ← validate_eq_ok_iff]
    cases hvalid : l.resulting.validate with
    | error e =>
        constructor
        · intro hload
          contradiction
        · rintro ⟨-, rfl, hok⟩
          rw [hvalid] at hok
          contradiction
    | ok u =>
        constructor
        · intro hload
          cases hload
          exact ⟨h, rfl, hvalid⟩
        · rintro ⟨-, rfl, -⟩
          rfl
  · obtain ⟨name, reason, hfault⟩ := load_of_wrong h
    rw [hfault]
    constructor
    · intro hload
      contradiction
    · rintro ⟨hnone, -⟩
      exact absurd hnone h

end Loader

/-- A loader in any state, so after any layers and with any variables, and any language of
filters.

If settings are loaded, they are those that the layers made, changed by all variables.  The stack
that is made from them has an identifier that shows, and opens spans as the settings say.
Logging is set up under this identifier; whatever is installed, it is not refused for its level:
disabled it succeeds and changes nothing, and otherwise it comes into force unless logging is
installed already.

If no variable is wrong, loading fails just for changed settings with a blank identifier, which is
told first, or with logging that would be refused for its level. -/
theorem loaded_usable (l : Loader) :
    (∀ c, l.load.result = .ok c →
      c = l.resulting ∧
      (∃ ch ∈ c.stackOptions.id.toList, Text.isBlank ch = false) ∧
      c.stackOptions = ⟨c.stack.id, c.stack.instrument⟩ ∧
      c.loggingOptions.service = c.stackOptions.id ∧
      ∀ installed,
        (∀ level reason,
          (setUp installed c.loggingOptions).1 ≠ .error (.invalidLevel level reason)) ∧
        (c.logging.enabled = false → setUp installed c.loggingOptions = (.ok (), installed)) ∧
        (c.logging.enabled = true → ∃ filter, createFilter c.logging.level = .ok filter ∧
          setUp installed c.loggingOptions = match installed with
            | none => (.ok (), some ⟨c.loggingOptions, filter⟩)
            | some now => (.error .alreadyInstalled, some now))) ∧
    (l.NoneWrong →
      (l.resulting.Blank →
        l.load.result = .error (.invalidValue "stack.id" "must not be empty")) ∧
      (∀ reason, ¬ l.resulting.Blank → l.resulting.loggingOptions.Refused reason →
        l.load.result = .error (.invalidValue "logging.level"
          (SetupError.invalidLevel l.resulting.logging.level reason).message)) ∧
      ((∃ e, l.load.result = .error e) ↔
        l.resulting.Blank ∨ ∃ reason, l.resulting.loggingOptions.Refused reason)) := by
  refine ⟨fun c hload => ?_, fun hwrong => ⟨fun hblank => ?_, fun reason hblank hrefused => ?_, ?_⟩⟩
  · obtain ⟨-, hc, husable⟩ := Loader.load_eq_ok_iff.mp hload
    refine ⟨hc, husable.shows, rfl, rfl, fun installed => ⟨?_, ?_, ?_⟩⟩
    · intro level reason hfault
      exact husable.accepted reason (Options.refused_of_fault hfault)
    · intro hdisabled
      exact setUp_of_disabled hdisabled installed
    · intro henabled
      rcases c.loggingOptions.kinds with hdisabled | ⟨reason, hrefused⟩ | ⟨filter, haccepted⟩
      · exact absurd (henabled.symm.trans hdisabled) Bool.true_eq_false.mp
      · exact absurd hrefused (husable.accepted reason)
      · exact ⟨filter, haccepted.filter_eq, haccepted.setUp_eq installed⟩
  · rw [Loader.load_of_noneWrong hwrong, validate_of_blank hblank]
    rfl
  · rw [Loader.load_of_noneWrong hwrong, validate_of_refused hblank hrefused]
    rfl
  · have hok : (∃ e, l.load.result = .error e) ↔ ¬ ∃ c, l.load.result = .ok c := by
      cases l.load.result <;> simp
    rw [hok, ← not_iff_not, not_not, ← usable_iff]
    constructor
    · rintro ⟨c, hload⟩
      obtain ⟨-, rfl, husable⟩ := Loader.load_eq_ok_iff.mp hload
      exact husable
    · intro husable
      exact ⟨_, Loader.load_eq_ok_iff.mpr ⟨hwrong, rfl, husable⟩⟩

end

/-- Identifier and level of a document are both wrong, and the identifier is told; variables
repair them, and logging can be set up. -/
theorem loaded_usable_repaired :
    let env : Environment := [("APP__STACK__ID", "orders"), ("APP__STACK__INSTRUMENT", "no"),
      ("APP__LOGGING__LEVEL", "client=debug")]
    let layers : List Layer := [.document
      "\x7b\"stack\":\x7b\"id\":\" \"\x7d,\"logging\":\x7b\"level\":\"client=loud\"\x7d\x7d" "json",
      .variables "app"]
    ∃ l m c, Loader.addAll [] { environment := env } 0 layers = (l, none) ∧
      l.load.result = .ok c ∧ c.stackOptions = ⟨"orders", false⟩ ∧
      c.loggingOptions.service = "orders" ∧ (setUp none c.loggingOptions).1 = .ok () ∧
      Loader.addAll [] {} 0 layers = (m, none) ∧
      (∃ reason, m.resulting.loggingOptions.Refused reason) ∧
      m.load.result = .error (.invalidValue "stack.id" "must not be empty") := by
  intro env layers
  generalize hl : Loader.addAll [] { environment := env } 0 layers = l
  generalize hm : Loader.addAll [] {} 0 layers = m
  have hlsound : l.2 = none := by subst hl; decide +kernel
  have hmsound : m.2 = none := by subst hm; decide +kernel
  have hrepaired : l.1.load.result.toOption =
      some ⟨⟨"orders", false⟩, { level := "client=debug" }⟩ := by subst hl; decide +kernel
  have hresulting : m.1.resulting = ⟨⟨" ", true⟩, { level := "client=loud" }⟩ := by
    subst hm; decide +kernel
  have hnone : m.1.NoneWrong := by
    have henvironment : m.1.environment = [] := by subst hm; decide +kernel
    intro lead _ v hv
    rw [henvironment] at hv
    exact absurd hv List.not_mem_nil
  cases hload : l.1.load.result with
  | error e =>
      rw [hload] at hrepaired
      contradiction
  | ok c =>
      rw [hload] at hrepaired
      obtain ⟨-, -, -, hservice, hset⟩ := (loaded_usable l.1).1 c hload
      cases hrepaired
      obtain ⟨filter, -, hforce⟩ := (hset none).2.2 rfl
      refine ⟨l.1, m.1, _, Prod.ext rfl hlsound, hload, rfl, hservice, ?_,
        Prod.ext rfl hmsound, ?_, ?_⟩
      · rw [hforce]
      · rw [hresulting]
        exact ⟨_, Options.refused_iff.mpr ⟨rfl, rfl⟩⟩
      · refine ((loaded_usable m.1).2 hnone).1 ?_
        rw [hresulting, ← isBlankText_iff]
        rfl

end OpStack.Settings
