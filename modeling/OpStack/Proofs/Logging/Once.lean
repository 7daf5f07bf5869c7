import OpStack.Logging.Directive
import OpStack.Proofs.Logging.Refusal

/-!
# OpStack.Proofs.Logging.Once

Logging comes into force once.  In a run of attempts that starts with nothing in force, what is
in force is always what the first installable options brought (`setUpAll_snd`), so the answer to
an attempt depends on its own options and on whether installable ones came before:

1. disabled options succeed and change nothing;
2. a level that is no filter is refused, before and after something came into force;
3. of all other options the first come into force, and all later ones are told that they are
   too late.

This is `installs_once`.
-/

namespace OpStack.Logging

section

variable [FilterReader] {o : Options} {filter : FilterReader.Filter}

/-! ## One attempt -/

namespace Options

/-- What the options bring into force, if nothing is yet. -/
def installed? (o : Options) : Option Installed :=
  if o.enabled then (FilterReader.read o.level).toOption.map (⟨o, ·⟩) else none

/-- The options are enabled, and their level is a filter. -/
def Installable (o : Options) : Prop :=
  o.enabled = true ∧ ∃ filter, FilterReader.read o.level = .ok filter

/-- A level that is read is accepted. -/
theorem accepted_of_read (henabled : o.enabled = true)
    (hfilter : FilterReader.read o.level = .ok filter) : o.Accepted filter :=
  ⟨henabled, by rw [createFilter, hfilter]⟩

/-- A level that is not read is refused, for the reason of the reader. -/
theorem refused_of_read {reason : String} (henabled : o.enabled = true)
    (hfault : FilterReader.read o.level = .error reason) : o.Refused reason :=
  refused_iff.mpr ⟨henabled, by rw [createFilter, hfault]⟩

theorem installed?_of_read (henabled : o.enabled = true)
    (hfilter : FilterReader.read o.level = .ok filter) : o.installed? = some ⟨o, filter⟩ := by
  rw [installed?, if_pos henabled, hfilter]
  rfl

/-- Nothing would be installed of options that are off or refused. -/
theorem installed?_eq_none_iff : o.installed? = none ↔ ¬ o.Installable := by
  rw [installed?, Installable]
  cases o.enabled <;> cases FilterReader.read o.level <;> simp [Except.toOption]

end Options

/-- What is in force stays; otherwise the options come into force, if they can. -/
theorem setUp_snd (installed : Option Installed) (o : Options) :
    (setUp installed o).2 = installed.or o.installed? := by
  cases henabled : o.enabled with
  | false =>
      rw [setUp_of_disabled henabled, Options.installed?, henabled]
      exact Option.or_none.symm
  | true =>
      cases hfilter : FilterReader.read o.level with
      | error e =>
          rw [Options.refused_of_read henabled hfilter, Options.installed?, hfilter]
          cases installed <;> simp [Except.toOption]
      | ok filter =>
          rw [(Options.accepted_of_read henabled hfilter).setUp_eq,
            Options.installed?_of_read henabled hfilter]
          cases installed <;> rfl

/-! ## Runs -/

/-- An attempt behind others finds what they left. -/
theorem setUpAll_append (installed : Option Installed) (os others : List Options) :
    setUpAll installed (os ++ others) =
      ((setUpAll installed os).1 ++ (setUpAll (setUpAll installed os).2 others).1,
        (setUpAll (setUpAll installed os).2 others).2) := by
  induction os generalizing installed with
  | nil => rfl
  | cons o os ih => simp only [List.cons_append, setUpAll, ih]

/-- Every call is answered. -/
theorem length_setUpAll (installed : Option Installed) (os : List Options) :
    (setUpAll installed os).1.length = os.length := by
  induction os generalizing installed with
  | nil => rfl
  | cons o os ih => simp only [setUpAll, List.length_cons, ih]

/-- What is in force stays; otherwise the first installable options come into force. -/
theorem setUpAll_snd (installed : Option Installed) (os : List Options) :
    (setUpAll installed os).2 = installed.or (os.findSome? Options.installed?) := by
  induction os generalizing installed with
  | nil => exact Option.or_none.symm
  | cons o os ih =>
      rw [setUpAll, ih, setUp_snd, List.findSome?_cons, Option.or_assoc]
      cases o.installed? <;> rfl

/-- Nothing is in force if no call could have installed it. -/
theorem setUpAll_snd_eq_none_iff {os : List Options} :
    (setUpAll none os).2 = none ↔ ∀ o ∈ os, ¬ o.Installable := by
  simp only [setUpAll_snd, Option.none_or, List.findSome?_eq_none_iff,
    Options.installed?_eq_none_iff]

/-- The answer to an attempt, and what it leaves. -/
theorem setUpAll_middle (before after : List Options) (o : Options) :
    (setUpAll none (before ++ o :: after)).1[before.length]? =
        some (setUp (setUpAll none before).2 o).1 ∧
      (setUpAll none (before ++ [o])).2 = (setUp (setUpAll none before).2 o).2 := by
  constructor
  · rw [setUpAll_append, List.getElem?_append_right (Nat.le_of_eq (length_setUpAll none before)),
      length_setUpAll, Nat.sub_self]
    rfl
  · rw [setUpAll_append]
    rfl

/-- **Logging is installed at most once.**  Every attempt of a run that starts with nothing in
force is answered.  What is in force at any moment is what the first installable options before
it brought.  An attempt with `o`, whatever comes before and after it,

1. succeeds and changes nothing, if `o` is disabled;
2. fails for the level of `o` and changes nothing, if that is no filter;
3. otherwise succeeds and brings `o` into force, if no options before it were installable, and
   is told that logging is installed already and changes nothing, if some were. -/
theorem installs_once (before after : List Options) (o : Options) :
    let inForce (os : List Options) := (setUpAll none os).2
    let answers := (setUpAll none (before ++ o :: after)).1
    let answer := answers[before.length]?
    answers.length = (before ++ o :: after).length ∧
    inForce before = before.findSome? Options.installed? ∧
    (o.enabled = false → answer = some (.ok ()) ∧ inForce (before ++ [o]) = inForce before) ∧
    (∀ reason, o.enabled = true → FilterReader.read o.level = .error reason →
      answer = some (.error (.invalidLevel o.level reason)) ∧
        inForce (before ++ [o]) = inForce before) ∧
    ∀ filter, o.enabled = true → FilterReader.read o.level = .ok filter →
      ((∀ p ∈ before, ¬ p.Installable) →
        answer = some (.ok ()) ∧ inForce (before ++ [o]) = some ⟨o, filter⟩) ∧
      ((∃ p ∈ before, p.Installable) →
        answer = some (.error .alreadyInstalled) ∧ inForce (before ++ [o]) = inForce before) := by
  intro inForce answers answer
  obtain ⟨hanswer, hnext⟩ := setUpAll_middle before after o
  change answer = _ at hanswer
  change inForce (before ++ [o]) = _ at hnext
  refine ⟨length_setUpAll none _, setUpAll_snd none before, fun hdisabled => ?_,
    fun reason henabled hfault => ?_, fun filter henabled hfilter => ⟨fun hnone => ?_, fun hsome => ?_⟩⟩
  · rw [hanswer, hnext, setUp_of_disabled hdisabled]
    exact ⟨rfl, rfl⟩
  · rw [hanswer, hnext, Options.refused_of_read henabled hfault]
    exact ⟨rfl, rfl⟩
  · rw [hanswer, hnext, (Options.accepted_of_read henabled hfilter).setUp_eq,
      setUpAll_snd_eq_none_iff.mpr hnone]
    exact ⟨rfl, rfl⟩
  · rw [hanswer, hnext, (Options.accepted_of_read henabled hfilter).setUp_eq]
    cases hnow : (setUpAll none before).2 with
    | none =>
        obtain ⟨p, hp, hinstallable⟩ := hsome
        exact absurd hinstallable (setUpAll_snd_eq_none_iff.mp hnow p hp)
    | some now => exact ⟨rfl, hnow.symm⟩

end

/-- A disabled attempt, a refused one, the first that is installed, and again a refused one in
front of one that comes too late. -/
theorem installs_once_fifth :
    let off : Options := { Options.production with enabled := false, level := "[" }
    let wrong : Options := { Options.development with level := "strata=verbose" }
    let before := [off, wrong, .production, wrong]
    let answers := (setUpAll none (before ++ [.development])).1
    wrong.enabled = true ∧
    FilterReader.read wrong.level = .error DirectiveFault.level.message ∧
    answers[3]? = some (.error (.invalidLevel "strata=verbose" DirectiveFault.level.message)) ∧
    Options.production.Installable ∧
    answers[4]? = some (.error .alreadyInstalled) := by
  intro off wrong before answers
  have hwrong : FilterReader.read "strata=verbose" = .error DirectiveFault.level.message := by rfl
  have hdebug : FilterReader.read "debug" = .ok (⟨[{ threshold := 4 }]⟩ : Directives) := by rfl
  have hinfo : FilterReader.read "info" = .ok (⟨[{ threshold := 3 }]⟩ : Directives) := by rfl
  have hfirst : Options.production.Installable := ⟨rfl, _, hinfo⟩
  obtain ⟨-, -, -, hrefused, -⟩ := installs_once [off, wrong, .production] [.development] wrong
  obtain ⟨-, -, -, -, haccepted⟩ := installs_once before [] .development
  have hlate := (haccepted _ rfl hdebug).2 ⟨.production, by simp [before], hfirst⟩
  exact ⟨rfl, hwrong, (hrefused _ rfl hwrong).1, hfirst, hlate.1⟩

end OpStack.Logging
