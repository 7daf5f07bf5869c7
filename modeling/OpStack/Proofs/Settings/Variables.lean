import Mathlib.Data.List.Nodup
import OpStack.Proofs.Settings.Setting

/-!
# OpStack.Proofs.Settings.Variables

Settings changed by variables, in any order.

A variable has one of three roles (`Role`): it belongs to a setting, it has the lead but names
no setting, or it has no meaning here.  Each setting has one variable, so different variables
change different settings.

* `override_of_sound`: if no variable is wrong, each one does its change, and each unknown one
  is told.
* `override_of_wrong`: otherwise a wrong one ends it.

The changes of different variables do not meet (`changedBy_comm`), so the order of the
variables has no meaning: `override_order`.
-/

namespace OpStack

open Settings

/-! ## Roles of variables -/

/-- What a variable means to settings. -/
inductive Role where
  | foreign
  /-- It has the lead, but names no setting. -/
  | unknown
  | of (i : Setting)
  deriving DecidableEq, Repr

/-- The setting that the text behind the lead and the underscores names. -/
def Setting.ofSuffix? (key : String) : Option Setting := all.find? (·.suffix == key)

/-- A key is the suffix of a setting, or that of none. -/
theorem Setting.ofSuffix?_eq_some_iff {key : String} {i : Setting} :
    ofSuffix? key = some i ↔ key = i.suffix := by
  constructor
  · intro h
    have hbeq : (i.suffix == key) = true :=
      List.find?_some (p := fun j : Setting => j.suffix == key) h
    exact (eq_of_beq hbeq).symm
  · rintro rfl
    cases hfound : ofSuffix? i.suffix with
    | none =>
        have hnone := List.find?_eq_none.mp hfound i i.mem_all
        exact absurd (beq_self_eq_true i.suffix) hnone
    | some j =>
        have hbeq : (j.suffix == i.suffix) = true :=
          List.find?_some (p := fun j : Setting => j.suffix == i.suffix) hfound
        exact congrArg some (suffix_inj (eq_of_beq hbeq))

/-- The role of a variable with this name. -/
def Role.ofName (lead name : String) : Role :=
  match Override.setting? lead name with
  | none => foreign
  | some key => (Setting.ofSuffix? key).elim unknown of

/-- The key of a name is what stands behind the prefix. -/
theorem Settings.Override.setting?_eq_some_iff {lead name key : String} :
    setting? lead name = some key ↔ name = lead ++ "__" ++ key := by
  have hlist : name = lead ++ "__" ++ key ↔
      name.toList = (lead ++ "__").toList ++ key.toList := by
    rw [← String.toList_inj, String.toList_append]
  rw [hlist, setting?]
  constructor
  · intro h
    split at h
    · next hfront =>
        obtain ⟨rest, hrest⟩ := List.isPrefixOf_iff_prefix.mp hfront
        rw [← Option.some.inj h, ← hrest, List.drop_left, String.toList_ofList]
    · contradiction
  · intro h
    have hfront : (lead ++ "__").toList.isPrefixOf name.toList = true :=
      List.isPrefixOf_iff_prefix.mpr ⟨key.toList, h.symm⟩
    rw [if_pos hfront, h, List.drop_left, String.ofList_toList]

/-- The variable of a setting is named by the lead, two underscores and the suffix. -/
theorem Role.ofName_eq_of_iff {lead name : String} {i : Setting} :
    ofName lead name = of i ↔ name = lead ++ "__" ++ i.suffix := by
  rw [← Override.setting?_eq_some_iff, ofName]
  cases Override.setting? lead name with
  | none => simp
  | some key =>
      have hkey : Setting.ofSuffix? key = some i ↔ key = i.suffix :=
        Setting.ofSuffix?_eq_some_iff
      rw [Option.some.injEq, ← hkey]
      dsimp only
      cases Setting.ofSuffix? key <;> simp

/-! ## One variable -/

namespace Settings

/-- The variable belongs to a setting that is a truth value or to the format, and its text
stands for none. -/
def Wrong (lead : String) (v : String × String) : Prop :=
  (∃ i ∈ Setting.flags, v.1 = lead ++ "__" ++ i.suffix ∧ flag? v.2 = none) ∨
    (v.1 = lead ++ "__" ++ Setting.format.suffix ∧ format? v.2 = none)

/-- A variable is wrong if it names a setting and its value is no such. -/
theorem wrong_iff {lead : String} {v : String × String} :
    Wrong lead v ↔ ∃ i : Setting, v.1 = lead ++ "__" ++ i.suffix ∧ i.parse? v.2 = none := by
  constructor
  · rintro (⟨i, hi, hname, hvalue⟩ | ⟨hname, hvalue⟩)
    · refine ⟨i, hname, ?_⟩
      simp only [Setting.flags, List.mem_cons, List.not_mem_nil, or_false] at hi
      rcases hi with rfl | rfl | rfl | rfl <;> exact hvalue
    · exact ⟨.format, hname, hvalue⟩
  · rintro ⟨i, hname, hvalue⟩
    cases i with
    | stackId | level => contradiction
    | format => exact .inr ⟨hname, hvalue⟩
    | instrument => exact .inl ⟨.instrument, by decide, hname, hvalue⟩
    | enabled => exact .inl ⟨.enabled, by decide, hname, hvalue⟩
    | ansiEnabled => exact .inl ⟨.ansiEnabled, by decide, hname, hvalue⟩
    | includeLocation => exact .inl ⟨.includeLocation, by decide, hname, hvalue⟩

/-- The settings after the change that the variable makes, if it makes one. -/
def changedBy (lead : String) (s : Settings) (v : String × String) : Settings :=
  match Role.ofName lead v.1 with
  | .of i => (i.parse? v.2).elim s (i.set s)
  | .foreign | .unknown => s

/-- What is told of the variable. -/
def toldOf? (lead : String) (v : String × String) : Option Event :=
  match Role.ofName lead v.1 with
  | .unknown => some (.overrideIgnored v.1)
  | .foreign | .of _ => none

namespace Override

/-- The change that variables can make to the setting. -/
def ofSetting (i : Setting) : Override :=
  ⟨i.suffix, fun value s => (i.parse? value).elim (.error i.complaint) fun v => .ok (i.set s v)⟩

theorem flag_eq (name : String) (set : Settings → Bool → Settings) :
    flag name set = ⟨name, fun value s =>
      (flag? value).elim (.error "expected boolean") fun b => .ok (set s b)⟩ := by
  unfold flag
  congr 1
  funext value s
  cases flag? value <;> rfl

theorem format_eq (name : String) (set : Settings → LogFormat → Settings) :
    format name set = ⟨name, fun value s =>
      (format? value).elim (.error "expected 'json' or 'pretty'") fun f => .ok (set s f)⟩ := by
  unfold format
  congr 1
  funext value s
  cases format? value <;> rfl

/-- The changes that variables can make are those of the settings. -/
theorem all_eq : all = Setting.all.map ofSetting := by
  simp only [all, flag_eq, format_eq]
  rfl

/-- The table of overrides is that of the settings. -/
theorem find?_all (key : String) :
    all.find? (·.name == key) = (Setting.ofSuffix? key).map ofSetting := by
  rw [all_eq, List.find?_map]
  rfl

end Override

/-- What one variable does, by its role. -/
theorem overrideBy_eq (lead : String) (s : Settings) (name value : String) :
    overrideBy lead s name value =
      match Role.ofName lead name with
      | .foreign => .ok (s, false)
      | .unknown => .ok (s, true)
      | .of i =>
        match i.parse? value with
        | some v => .ok (i.set s v, false)
        | none => .error (.badOverride name i.complaint) := by
  rw [overrideBy, Role.ofName]
  cases Override.setting? lead name with
  | none => rfl
  | some key =>
      dsimp only
      rw [Override.find?_all]
      cases Setting.ofSuffix? key with
      | none => rfl
      | some i =>
          dsimp only [Option.map_some, Option.elim_some, Override.ofSetting]
          cases i.parse? value <;> rfl

/-- A wrong variable fails, whatever was set before. -/
theorem overrideBy_of_wrong {lead name value : String} (h : Wrong lead (name, value))
    (s : Settings) :
    ∃ reason, overrideBy lead s name value = .error (.badOverride name reason) := by
  obtain ⟨i, hname, hvalue⟩ := wrong_iff.mp h
  refine ⟨i.complaint, ?_⟩
  rw [overrideBy_eq, Role.ofName_eq_of_iff.mpr hname]
  dsimp only at hvalue ⊢
  rw [hvalue]

/-- Any other changes its setting, or is told of. -/
theorem overrideBy_of_not_wrong {lead name value : String} (h : ¬ Wrong lead (name, value))
    (s : Settings) :
    overrideBy lead s name value =
      .ok (changedBy lead s (name, value), (toldOf? lead (name, value)).isSome) := by
  rw [overrideBy_eq, changedBy, toldOf?]
  cases hrole : Role.ofName lead name with
  | foreign | unknown => rfl
  | of i =>
      cases hvalue : i.parse? value with
      | none => exact absurd (wrong_iff.mpr ⟨i, Role.ofName_eq_of_iff.mp hrole, hvalue⟩) h
      | some v =>
          dsimp only
          rw [hvalue]
          rfl

/-- Variables with different names change different settings. -/
theorem changedBy_comm {lead : String} {v u : String × String} (h : v.1 ≠ u.1) (s : Settings) :
    changedBy lead (changedBy lead s v) u = changedBy lead (changedBy lead s u) v := by
  unfold changedBy
  cases hv : Role.ofName lead v.1 with
  | foreign | unknown => rfl
  | of i =>
      cases hu : Role.ofName lead u.1 with
      | foreign | unknown => rfl
      | of j =>
          have hij : i ≠ j := by
            rintro rfl
            exact h ((Role.ofName_eq_of_iff.mp hv).trans (Role.ofName_eq_of_iff.mp hu).symm)
          dsimp only
          cases i.parse? v.2 <;> cases j.parse? u.2 <;> try rfl
          exact Setting.set_comm hij s _ _

/-! ## All variables -/

/-- If no variable is wrong, each one makes its change, and each unknown one is told. -/
theorem override_of_sound {lead : String} {env : Environment} (h : ∀ v ∈ env, ¬ Wrong lead v)
    (s : Settings) :
    override lead s env =
      ⟨.ok (env.foldl (changedBy lead) s), env.filterMap (toldOf? lead)⟩ := by
  induction env generalizing s with
  | nil => rfl
  | cons v env ih =>
      have hrest := ih fun u hu => h u (List.mem_cons_of_mem v hu)
      rw [override, overrideBy_of_not_wrong (h v List.mem_cons_self)]
      dsimp only
      rw [hrest, List.foldl_cons, List.filterMap_cons, Overridden.telling, toldOf?]
      cases Role.ofName lead v.1 <;> rfl

/-- Otherwise a wrong one ends it. -/
theorem override_of_wrong {lead : String} {env : Environment} (h : ∃ v ∈ env, Wrong lead v)
    (s : Settings) :
    ∃ v ∈ env, Wrong lead v ∧
      ∃ reason, (override lead s env).result = .error (.badOverride v.1 reason) := by
  induction env generalizing s with
  | nil =>
      obtain ⟨v, hv, -⟩ := h
      exact absurd hv List.not_mem_nil
  | cons v env ih =>
      by_cases hwrong : Wrong lead v
      · obtain ⟨reason, hreason⟩ := overrideBy_of_wrong hwrong s
        exact ⟨v, List.mem_cons_self, hwrong, reason, by rw [override, hreason]⟩
      · have hrest : ∃ u ∈ env, Wrong lead u := by
          obtain ⟨u, hu, huwrong⟩ := h
          rcases List.mem_cons.mp hu with rfl | hu
          · exact absurd huwrong hwrong
          · exact ⟨u, hu, huwrong⟩
        obtain ⟨u, hu, huwrong, reason, hreason⟩ := ih hrest (changedBy lead s v)
        refine ⟨u, List.mem_cons_of_mem v hu, huwrong, reason, ?_⟩
        rw [override, overrideBy_of_not_wrong hwrong]
        dsimp only
        rw [← hreason, Overridden.telling]
        split <;> rfl

/-! ## Any order -/

/-- The variables whose names have the lead in front. -/
def matching (lead : String) (env : Environment) : Environment :=
  env.filter fun v => lead.toList.isPrefixOf v.1.toList

/-- A variable without the lead has no meaning. -/
theorem ofName_of_not_isPrefixOf {lead name : String}
    (h : lead.toList.isPrefixOf name.toList = false) : Role.ofName lead name = .foreign := by
  have hnone : Override.setting? lead name = none := by
    cases hkey : Override.setting? lead name with
    | none => rfl
    | some key =>
        have hname := congrArg String.toList (Override.setting?_eq_some_iff.mp hkey)
        rw [String.append_assoc, String.toList_append] at hname
        have hfront := List.isPrefixOf_iff_prefix.mpr ⟨_, hname.symm⟩
        rw [h] at hfront
        contradiction
  rw [Role.ofName, hnone]

/-- The others change nothing, and nothing is told of them. -/
theorem override_matching (lead : String) (s : Settings) (env : Environment) :
    override lead s (matching lead env) = override lead s env := by
  induction env generalizing s with
  | nil => rfl
  | cons v env ih =>
      unfold matching at ih ⊢
      rw [List.filter_cons]
      split
      · next hfront =>
          rw [override, override]
          cases overrideBy lead s v.1 v.2 with
          | error e => rfl
          | ok r =>
              dsimp only
              rw [ih]
      · next hfront =>
          have hrole := ofName_of_not_isPrefixOf (Bool.eq_false_iff.mpr hfront)
          have hby : overrideBy lead s v.1 v.2 = .ok (s, false) := by
            rw [overrideBy_eq, hrole]
          rw [ih, override, hby]
          rfl

/-- To be wrong a variable has to match. -/
theorem wrong_of_matching {lead : String} {env vars : Environment}
    (hvars : vars.Perm (matching lead env)) :
    (∃ v ∈ vars, Wrong lead v) ↔ ∃ v ∈ env, Wrong lead v := by
  constructor
  · rintro ⟨v, hv, hwrong⟩
    exact ⟨v, (List.mem_filter.mp (hvars.mem_iff.mp hv)).1, hwrong⟩
  · rintro ⟨v, hv, hwrong⟩
    refine ⟨v, hvars.mem_iff.mpr (List.mem_filter.mpr ⟨hv, ?_⟩), hwrong⟩
    obtain ⟨i, hname, -⟩ := wrong_iff.mp hwrong
    rw [List.isPrefixOf_iff_prefix, hname, String.append_assoc, String.toList_append]
    exact List.prefix_append _ _

/-- The matching variables can be taken in any two orders.  If one of a truth value or of the
format has a text that stands for none, both orders fail, each with a fault of such a variable.
Otherwise both lead to the same settings, and the same variables are told.  The variables of
the environment as they come are one of these orders. -/
theorem override_order (lead : String) (s : Settings) (env vars others : Environment)
    (hnames : (env.map Prod.fst).Nodup) (hvars : vars.Perm (matching lead env))
    (hothers : others.Perm (matching lead env)) :
    (((∃ v ∈ env, Wrong lead v) ∧
        (∃ v ∈ vars, Wrong lead v ∧
          ∃ reason, (override lead s vars).result = .error (.badOverride v.1 reason)) ∧
        ∃ v ∈ others, Wrong lead v ∧
          ∃ reason, (override lead s others).result = .error (.badOverride v.1 reason)) ∨
      ((∀ v ∈ env, ¬ Wrong lead v) ∧
        ∃ t told toldToo, override lead s vars = ⟨.ok t, told⟩ ∧
          override lead s others = ⟨.ok t, toldToo⟩ ∧ told.Perm toldToo)) ∧
    override lead s (matching lead env) = override lead s env := by
  refine ⟨?_, override_matching lead s env⟩
  by_cases hwrong : ∃ v ∈ env, Wrong lead v
  · exact .inl ⟨hwrong, override_of_wrong ((wrong_of_matching hvars).mpr hwrong) s,
      override_of_wrong ((wrong_of_matching hothers).mpr hwrong) s⟩
  · have hsound : ∀ v ∈ vars, ¬ Wrong lead v := fun v hv h =>
      hwrong ((wrong_of_matching hvars).mp ⟨v, hv, h⟩)
    have hsoundToo : ∀ v ∈ others, ¬ Wrong lead v := fun v hv h =>
      hwrong ((wrong_of_matching hothers).mp ⟨v, hv, h⟩)
    have hperm : others.Perm vars := hothers.trans hvars.symm
    -- different places of the list hold different names
    have hapart : (vars.map Prod.fst).Nodup :=
      (hvars.map Prod.fst).nodup_iff.mpr (hnames.sublist (List.filter_sublist.map Prod.fst))
    have hcomm : ∀ v ∈ vars, ∀ u ∈ vars, ∀ s, changedBy lead (changedBy lead s v) u =
        changedBy lead (changedBy lead s u) v := by
      intro v hv u hu s
      by_cases hvu : v = u
      · rw [hvu]
      · exact changedBy_comm (fun hname => hvu (List.inj_on_of_nodup_map hapart hv hu hname)) s
    have hsame : vars.foldl (changedBy lead) s = others.foldl (changedBy lead) s :=
      hperm.symm.foldl_eq' hcomm s
    refine .inr ⟨fun v hv h => hwrong ⟨v, hv, h⟩, _, _, _, override_of_sound hsound s, ?_,
      hperm.symm.filterMap _⟩
    rw [override_of_sound hsoundToo, hsame]

/-- Four of five variables have the lead, two change a setting, and one names none. -/
theorem override_order_reverse :
    let env : Environment := [("APP__LOGGING__ENABLED", "Off"), ("HOME", "/root"),
      ("APP__COLOR", "blue"), ("APP__STACK__ID", "orders"), ("APP_HOME", "/srv")]
    ∃ told toldToo,
      override "APP" {} (matching "APP" env) =
        ⟨.ok { stack.id := "orders", logging.enabled := false }, told⟩ ∧
      override "APP" {} (matching "APP" env).reverse =
        ⟨.ok { stack.id := "orders", logging.enabled := false }, toldToo⟩ ∧
      told = [.overrideIgnored "APP__COLOR"] ∧ told.Perm toldToo := by
  intro env
  have hresult : override "APP" {} (matching "APP" env) =
      ⟨.ok { stack.id := "orders", logging.enabled := false },
        [.overrideIgnored "APP__COLOR"]⟩ := rfl
  have horder := override_order "APP" {} env _ _ (by decide) (.refl _) (List.reverse_perm _)
  rw [hresult] at horder
  rcases horder.1 with ⟨-, ⟨v, -, -, reason, hfault⟩, -⟩ | ⟨-, t, told, toldToo, hone, htwo, hperm⟩
  · contradiction
  · cases hone
    exact ⟨_, toldToo, hresult, htwo, rfl, hperm⟩

end Settings

end OpStack
