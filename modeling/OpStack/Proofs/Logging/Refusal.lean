import OpStack.Logging.Setup

/-!
# OpStack.Proofs.Logging.Refusal

What comes of setting up logging.  Options are of three kinds (`Options.kinds`), whatever is
installed:

1. disabled ones change nothing and succeed (`setUp_of_disabled`);
2. refused ones (`Options.Refused`) change nothing and fail for their level;
3. accepted ones (`Options.Accepted`) come into force, unless logging is installed already
   (`Accepted.setUp_eq`).
-/

namespace OpStack.Logging

variable [FilterReader] {o : Options} {filter : FilterReader.Filter} {reason : String}

/-- A level that is no filter is told by its own text. -/
theorem createFilter_fault {level : String} {e : SetupError} (h : createFilter level = .error e) :
    ∃ reason, e = .invalidLevel level reason := by
  rw [createFilter] at h
  split at h
  · contradiction
  · cases h
    exact ⟨_, rfl⟩

/-- Options with their filter come into force, unless others are in force already. -/
def install (installed : Option Installed) (o : Options) (filter : FilterReader.Filter) :
    Except SetupError Unit × Option Installed :=
  match installed with
  | none => (.ok (), some ⟨o, filter⟩)
  | some now => (.error .alreadyInstalled, some now)

/-- Logging that is off is not set up, whatever is installed. -/
theorem setUp_of_disabled (h : o.enabled = false) (installed : Option Installed) :
    setUp installed o = (.ok (), installed) := by
  simp [setUp, h]

/-- The level is looked at before what is installed. -/
theorem setUp_of_enabled (h : o.enabled = true) (installed : Option Installed) :
    setUp installed o = match createFilter o.level with
      | .error e => (.error e, installed)
      | .ok filter => install installed o filter := by
  unfold setUp
  rw [if_pos h]
  cases createFilter o.level <;> cases installed <;> rfl

namespace Options

/-- Setting up fails for the level of the options, whatever is installed, and changes nothing. -/
def Refused (o : Options) (reason : String) : Prop :=
  ∀ installed, setUp installed o = (.error (.invalidLevel o.level reason), installed)

/-- The options are enabled, and this is the filter of their level. -/
structure Accepted (o : Options) (filter : FilterReader.Filter) : Prop where
  enabled : o.enabled = true
  filter_eq : createFilter o.level = .ok filter

/-- Options are refused where no filter can be made. -/
theorem refused_iff :
    o.Refused reason ↔
      o.enabled = true ∧ createFilter o.level = .error (.invalidLevel o.level reason) := by
  constructor
  · intro h
    have hnone := congrArg Prod.fst (h none)
    cases henabled : o.enabled with
    | false =>
        rw [setUp_of_disabled henabled] at hnone
        contradiction
    | true =>
        refine ⟨rfl, ?_⟩
        rw [setUp_of_enabled henabled] at hnone
        cases hfilter : createFilter o.level with
        | ok filter =>
            rw [hfilter] at hnone
            contradiction
        | error e =>
            rw [hfilter] at hnone
            exact congrArg Except.error (Except.error.inj hnone)
  · rintro ⟨henabled, hfilter⟩ installed
    rw [setUp_of_enabled henabled, hfilter]

/-- Accepted options are installed, or come too late. -/
theorem Accepted.setUp_eq (h : o.Accepted filter) (installed : Option Installed) :
    setUp installed o = install installed o filter := by
  rw [setUp_of_enabled h.enabled, h.filter_eq]

/-- Options are disabled, refused or accepted. -/
theorem kinds (o : Options) :
    o.enabled = false ∨ (∃ reason, o.Refused reason) ∨ ∃ filter, o.Accepted filter := by
  cases henabled : o.enabled with
  | false => exact .inl rfl
  | true =>
      cases hfilter : createFilter o.level with
      | ok filter => exact .inr (.inr ⟨filter, henabled, hfilter⟩)
      | error e =>
          obtain ⟨reason, rfl⟩ := createFilter_fault hfilter
          exact .inr (.inl ⟨reason, refused_iff.mpr ⟨henabled, hfilter⟩⟩)

/-- Options that fail for a level once are refused. -/
theorem refused_of_fault {installed : Option Installed} {level : String}
    (h : (setUp installed o).1 = .error (.invalidLevel level reason)) : o.Refused reason := by
  rcases o.kinds with hdisabled | ⟨other, hrefused⟩ | ⟨filter, haccepted⟩
  · rw [setUp_of_disabled hdisabled] at h
    contradiction
  · rw [hrefused installed] at h
    cases h
    exact hrefused
  · rw [haccepted.setUp_eq] at h
    cases installed with
    | none => contradiction
    | some now => exact absurd (Except.error.inj h) (fun heq => by cases heq)

end Options

end OpStack.Logging
