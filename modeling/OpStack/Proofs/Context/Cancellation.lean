import Mathlib.Logic.Relation
import OpStack.Proofs.Context.Family
import OpStack.Value.Basic

/-!
# OpStack.Proofs.Context.Cancellation

Cancellation reaches the members of a family and nobody else; deadlines reach one context only.

* `MadeFrom`, `Founder` and `Kin` tell from the operations of a run alone who was made from whom,
  and who belongs together.
* `Performed.descent`: an operation adds a founder with a flag of its own, or a member with the flag
  of the one it was made from, or nobody.
* `Traced`: what follows for runs; members are kin exactly if they share a flag (`Traced.kin_iff`).

`cancelled_by_family` says who is cancelled after a run, and what becomes of deadlines.
-/

namespace OpStack.Context.Family

open Relation

section

variable [Payloads]

/-! ## Who was made from whom -/

/-- A context or a handle, by its number. -/
inductive Member where
  | context (i : Nat)
  | handle (h : Nat)
  deriving DecidableEq

def Op.makesContext : Op → Bool
  | .new | .clone _ => true
  | _ => false

def Op.makesHandle : Op → Bool
  | .handle _ | .cloneHandle _ => true
  | _ => false

def contextCount (ops : List Op) : Nat := 1 + ops.countP Op.makesContext

def handleCount (ops : List Op) : Nat := ops.countP Op.makesHandle

/-- The parent and the new member, if the operation comes after those and makes one from another. -/
def Op.parentage? (before : List Op) : Op → Option (Member × Member)
  | .clone i => some (.context i, .context (contextCount before))
  | .handle i => some (.context i, .handle (handleCount before))
  | .cloneHandle h => some (.handle h, .handle (handleCount before))
  | _ => none

/-- The run made one member from the other. -/
def MadeFrom (ops : List Op) (parent child : Member) : Prop :=
  Once (fun before op => op.parentage? before = some (parent, child)) ops

/-- The context was made from nobody: it is the first one, or the run made it new. -/
def Founder (ops : List Op) (m : Member) : Prop :=
  m = .context 0 ∨ Once (fun before op => op = .new ∧ m = .context (contextCount before)) ops

/-- Both are reached from the same founder, by any number of members made from each other. -/
def Kin (ops : List Op) (m n : Member) : Prop :=
  ∃ founder, Founder ops founder ∧
    ReflTransGen (MadeFrom ops) founder m ∧ ReflTransGen (MadeFrom ops) founder n

variable {ops : List Op} {op : Op} {m n : Member}

/-- Whoever makes a context makes the next one. -/
theorem contextCount_concat : contextCount (ops ++ [op]) =
    if op.makesContext then contextCount ops + 1 else contextCount ops := by
  simp only [contextCount, List.countP_append, List.countP_singleton]
  split <;> omega

/-- Whoever makes a handle makes the next one. -/
theorem handleCount_concat : handleCount (ops ++ [op]) =
    if op.makesHandle then handleCount ops + 1 else handleCount ops := by
  simp only [handleCount, List.countP_append, List.countP_singleton]
  split <;> omega

/-- What was made from what is settled when it is made. -/
theorem madeFrom_concat : MadeFrom (ops ++ [op]) m n ↔
    op.parentage? ops = some (m, n) ∨ MadeFrom ops m n := once_concat

/-- A member that was made new founds a family. -/
theorem founder_concat : Founder (ops ++ [op]) m ↔
    (op = .new ∧ m = .context (contextCount ops)) ∨ Founder ops m := by
  rw [Founder, Founder, once_concat]
  exact or_left_comm

/-- What only reads makes no family. -/
theorem Op.Reads.ne_new (h : op.Reads) : op ≠ .new := by
  rintro rfl
  exact h

theorem Op.Reads.parentage?_eq (h : op.Reads) : op.parentage? ops = none := by
  cases op <;> simp_all [Op.Reads, Op.parentage?]

/-- Descent is not lost as the run goes on. -/
theorem descends_concat {founder : Member} (h : ReflTransGen (MadeFrom ops) founder m) :
    ReflTransGen (MadeFrom (ops ++ [op])) founder m :=
  ReflTransGen.mono (fun _ _ hmade => madeFrom_concat.mpr (.inr hmade)) _ _ h

/-! ## Flags -/

def flag? (f : Family) : Member → Option Nat
  | .context i => f.contexts[i]?.map (·.flag)
  | .handle h => f.handles[h]?

/-- Says of a context or a handle whether it is cancelled. -/
def isCancelled? (f : Family) (m : Member) : Option Bool := (f.flag? m).map f.flags.isRaised

/-- There are as many members as the run has made. -/
structure Counted (ops : List Op) (f : Family) : Prop where
  contexts : f.contexts.length = contextCount ops
  handles : f.handles.length = handleCount ops

variable {f g : Family}

/-- The flag of a context is the one it shares. -/
theorem flag?_context {i : Nat} {c : Context} (hc : f.contexts[i]? = some c) :
    f.flag? (.context i) = some c.flag := by
  rw [flag?, hc, Option.map_some]

/-- A change that keeps the flag of a context keeps all flags. -/
theorem flag?_put {i : Nat} {c d : Context} (hc : f.contexts[i]? = some c) (hflag : d.flag = c.flag)
    (m : Member) : (f.put i d).flag? m = f.flag? m := by
  cases m with
  | handle => rfl
  | context j =>
      rw [flag?, flag?, getElem?_contexts_put hc]
      split
      · next hij => rw [← hij, hc, Option.map_some, Option.map_some, hflag]
      · rfl

/-- Each operation makes as many members as it is counted for. -/
theorem Performed.counted (hp : f.Performed op g) (h : Counted ops f) :
    Counted (ops ++ [op]) g := by
  obtain ⟨hcontexts, hhandles⟩ := h
  constructor
  · rw [contextCount_concat]
    cases hp with
    | read hop => cases op <;> simp_all [Op.Reads, Op.makesContext]
    | _ => simp_all [Op.makesContext, put]
  · rw [handleCount_concat]
    cases hp with
    | read hop => cases op <;> simp_all [Op.Reads, Op.makesHandle]
    | _ => simp_all [Op.makesHandle, put]

/-- Whom an operation adds to those that are there after a run. -/
inductive Descent (ops : List Op) (op : Op) (f g : Family) : Prop
  /-- A founder, with a flag that nobody had. -/
  | founder (hop : op = .new) (hparentage : op.parentage? ops = none)
    (hfamilies : g.families = f.families + 1)
    (hflags : ∀ m, g.flag? m =
      if m = .context (contextCount ops) then some f.families else f.flag? m)
  /-- A member with the flag of the one it was made from. -/
  | child {parent child : Member} {flag : Nat} (hop : op ≠ .new)
    (hparentage : op.parentage? ops = some (parent, child)) (hfamilies : g.families = f.families)
    (hparent : f.flag? parent = some flag) (hchild : f.flag? child = none)
    (hflags : ∀ m, g.flag? m = if m = child then some flag else f.flag? m)
  | nobody (hop : op ≠ .new) (hparentage : op.parentage? ops = none)
    (hfamilies : g.families = f.families) (hflags : ∀ m, g.flag? m = f.flag? m)

/-- The flags with a context behind the others. -/
theorem flag?_append_context (h : Counted ops f) (c : Context) (families : Nat) (m : Member) :
    flag? { f with contexts := f.contexts ++ [c], families } m =
      if m = .context (contextCount ops) then some c.flag else f.flag? m := by
  rw [← h.contexts]
  cases m with
  | handle => simp [flag?]
  | context i =>
      simp only [flag?, List.getElem?_append, Member.context.injEq]
      grind

/-- The flags with a handle behind the others. -/
theorem flag?_append_handle (h : Counted ops f) (flag : Nat) (m : Member) :
    flag? { f with handles := f.handles ++ [flag] } m =
      if m = .handle (handleCount ops) then some flag else f.flag? m := by
  rw [← h.handles]
  cases m with
  | context => simp [flag?]
  | handle i =>
      simp only [flag?, List.getElem?_append, Member.handle.injEq]
      grind

/-- What an operation does to families: a new context founds one, a copy joins one. -/
theorem Performed.descent (hp : f.Performed op g) (h : Counted ops f) : Descent ops op f g := by
  have hcontext : f.flag? (.context (contextCount ops)) = none := by
    simp [flag?, ← h.contexts]
  have hhandle : f.flag? (.handle (handleCount ops)) = none := by
    simp [flag?, ← h.handles]
  cases hp with
  | new => exact .founder rfl rfl rfl (flag?_append_context h _ _)
  | clone hc =>
      exact .child (by simp) rfl rfl (flag?_context hc) hcontext
        (flag?_append_context h _ _)
  | handle hc =>
      exact .child (by simp) rfl rfl (flag?_context hc) hhandle
        (flag?_append_handle h _)
  | cloneHandle hh => exact .child (by simp) rfl rfl hh hhandle (flag?_append_handle h _)
  | set hc | write hc | remove hc | timeout hc | deadline hc =>
      exact .nobody (by simp) rfl rfl (flag?_put hc rfl)
  | cancel hh => exact .nobody (by simp) rfl rfl fun m => by cases m <;> rfl
  | read hop => exact .nobody hop.ne_new hop.parentage?_eq rfl fun _ => rfl

namespace Descent

/-- Whoever is there keeps the flag. -/
theorem flag?_eq (h : Descent ops op f g) (hcounted : Counted ops f) {flag : Nat}
    (hm : f.flag? m = some flag) : g.flag? m = some flag := by
  have hnew : f.flag? (.context (contextCount ops)) = none := by
    simp [flag?, ← hcounted.contexts]
  cases h with
  | founder _ _ _ hflags => rw [hflags]; split <;> simp_all
  | child _ _ _ _ hchild hflags => rw [hflags]; split <;> simp_all
  | nobody _ _ _ hflags => rw [hflags, hm]

/-- A new context takes the next flag. -/
theorem of_new (h : Descent ops op f g) (hop : op = .new) :
    g.flag? (.context (contextCount ops)) = some f.families ∧ g.families = f.families + 1 := by
  cases h with
  | founder _ _ hfamilies hflags => exact ⟨by rw [hflags, if_pos rfl], hfamilies⟩
  | child hne | nobody hne => exact absurd hop hne

/-- What is made from a member shares its flag. -/
theorem of_parentage (h : Descent ops op f g) (hop : op.parentage? ops = some (m, n)) :
    ∃ flag, f.flag? m = some flag ∧ g.flag? n = some flag := by
  cases h with
  | child _ hparentage _ hparent _ hflags =>
      cases hop.symm.trans hparentage
      exact ⟨_, hparent, by rw [hflags, if_pos rfl]⟩
  | founder _ hnone | nobody _ hnone => rw [hnone] at hop; contradiction

/-- Whoever has a flag had it before, or is new. -/
theorem flag?_cases (h : Descent ops op f g) {flag : Nat} (hm : g.flag? m = some flag) :
    f.flag? m = some flag ∨ (op = .new ∧ m = .context (contextCount ops)) ∨
      ∃ parent, op.parentage? ops = some (parent, m) ∧ f.flag? parent = some flag := by
  cases h with
  | founder hop _ _ hflags =>
      rw [hflags] at hm
      split at hm
      · next heq => exact .inr (.inl ⟨hop, heq⟩)
      · exact .inl hm
  | child _ hparentage _ hparent _ hflags =>
      rw [hflags] at hm
      split at hm
      · next heq => exact .inr (.inr ⟨_, heq ▸ hparentage, hm ▸ hparent⟩)
      · exact .inl hm
  | nobody _ _ _ hflags => exact .inl (hflags m ▸ hm)

/-- Flags are given out and not taken back. -/
theorem families_le (h : Descent ops op f g) : f.families ≤ g.families := by
  cases h with
  | founder _ _ hfamilies | child _ _ hfamilies | nobody _ _ hfamilies => omega

end Descent

/-! ## Runs -/

/-- What the flags have to do with who was made from whom. -/
structure Traced (ops : List Op) (f : Family) : Prop where
  counted : Counted ops f
  /-- A member has the flag of the one it was made from. -/
  made : ∀ m n, MadeFrom ops m n → ∃ flag, f.flag? m = some flag ∧ f.flag? n = some flag
  founded : ∀ m, Founder ops m → ∃ flag, f.flag? m = some flag
  /-- No two founders have the same flag. -/
  founder_inj : ∀ m n, Founder ops m → Founder ops n → f.flag? m = f.flag? n → m = n
  /-- Everybody comes from a founder. -/
  descends : ∀ m flag, f.flag? m = some flag →
    ∃ founder, Founder ops founder ∧ ReflTransGen (MadeFrom ops) founder m
  below : ∀ m flag, f.flag? m = some flag → flag < f.families

/-- In the beginning there is one context, which is its own founder. -/
theorem traced_start : Traced [] start := by
  have hflag {m : Member} {flag : Nat} (h : start.flag? m = some flag) :
      m = .context 0 ∧ flag = 0 := by
    cases m with
    | handle i => simp [flag?, start] at h
    | context i => cases i <;> simp_all [flag?, start]
  have hfounder {m : Member} : Founder [] m ↔ m = .context 0 := or_iff_left once_nil
  constructor
  · exact ⟨rfl, rfl⟩
  · exact fun m n h => absurd h once_nil
  · intro m h
    exact ⟨0, by rw [hfounder.mp h]; rfl⟩
  · intro m n hm hn _
    rw [hfounder.mp hm, hfounder.mp hn]
  · intro m flag h
    exact ⟨m, hfounder.mpr (hflag h).1, .refl⟩
  · intro m flag h
    rw [(hflag h).2]
    exact Nat.zero_lt_one

/-- An operation keeps that flags tell the founders. -/
theorem Traced.perform (h : Traced ops f) (hp : f.Performed op g) : Traced (ops ++ [op]) g := by
  have hdescent := hp.descent h.counted
  have hkept {m : Member} {flag : Nat} (hm : f.flag? m = some flag) : g.flag? m = some flag :=
    hdescent.flag?_eq h.counted hm
  have hfresh (hop : op = .new) {n : Member} (hn : Founder ops n) :
      g.flag? (.context (contextCount ops)) ≠ g.flag? n := by
    obtain ⟨flag, hflag⟩ := h.founded n hn
    have hlt : flag < f.families := h.below n flag hflag
    rw [(hdescent.of_new hop).1, hkept hflag]
    simp only [ne_eq, Option.some.injEq]
    omega
  refine ⟨hp.counted h.counted, fun m n hmn => ?made, fun m hm => ?founded,
    fun m n hm hn hmn => ?founder_inj, fun m flag hm => ?descends, fun m flag hm => ?below⟩
  case made =>
    rcases madeFrom_concat.mp hmn with hparentage | hold
    · obtain ⟨flag, hparent, hchild⟩ := hdescent.of_parentage hparentage
      exact ⟨flag, hkept hparent, hchild⟩
    · obtain ⟨flag, hm, hn⟩ := h.made m n hold
      exact ⟨flag, hkept hm, hkept hn⟩
  case founded =>
    rcases founder_concat.mp hm with ⟨hop, rfl⟩ | hold
    · exact ⟨_, (hdescent.of_new hop).1⟩
    · obtain ⟨flag, hflag⟩ := h.founded m hold
      exact ⟨flag, hkept hflag⟩
  case founder_inj =>
    rcases founder_concat.mp hm with ⟨hop, rfl⟩ | hm <;>
      rcases founder_concat.mp hn with ⟨hop', rfl⟩ | hn
    · rfl
    · exact absurd hmn (hfresh hop hn)
    · exact absurd hmn.symm (hfresh hop' hm)
    · obtain ⟨a, ha⟩ := h.founded m hm
      obtain ⟨b, hb⟩ := h.founded n hn
      rw [hkept ha, hkept hb] at hmn
      exact h.founder_inj m n hm hn (by rw [ha, hb, hmn])
  case descends =>
    rcases hdescent.flag?_cases hm with hold | ⟨hop, rfl⟩ | ⟨parent, hparentage, hparent⟩
    · obtain ⟨founder, hfounder, hdescends⟩ := h.descends m flag hold
      exact ⟨founder, founder_concat.mpr (.inr hfounder), descends_concat hdescends⟩
    · exact ⟨_, founder_concat.mpr (.inl ⟨hop, rfl⟩), .refl⟩
    · obtain ⟨founder, hfounder, hdescends⟩ := h.descends parent flag hparent
      exact ⟨founder, founder_concat.mpr (.inr hfounder),
        (descends_concat hdescends).tail (madeFrom_concat.mpr (.inl hparentage))⟩
  case below =>
    have hle : f.families ≤ g.families := hdescent.families_le
    rcases hdescent.flag?_cases hm with hold | ⟨hop, rfl⟩ | ⟨parent, -, hparent⟩
    · exact Nat.lt_of_lt_of_le (h.below m flag hold) hle
    · obtain ⟨hflag, hfamilies⟩ := hdescent.of_new hop
      rw [hflag] at hm
      cases hm
      omega
    · exact Nat.lt_of_lt_of_le (h.below parent flag hparent) hle

/-- In every reachable family flags tell the founders. -/
theorem traced_of_after (h : after ops = .ok f) : Traced ops f :=
  after_induction traced_start (fun _ _ _ _ h hp => h.perform hp) h

namespace Traced

/-- The flag goes down the generations. -/
theorem flag?_of_descends (h : Traced ops f) {flag : Nat} (hm : f.flag? m = some flag)
    (hmn : ReflTransGen (MadeFrom ops) m n) : f.flag? n = some flag := by
  induction hmn with
  | refl => exact hm
  | tail _ hmade ih =>
      obtain ⟨flag', hparent, hchild⟩ := h.made _ _ hmade
      rw [ih] at hparent
      exact hparent ▸ hchild

/-- Members are kin exactly if they share a flag. -/
theorem kin_iff (h : Traced ops f) {a b : Nat} (hm : f.flag? m = some a)
    (hn : f.flag? n = some b) : Kin ops m n ↔ a = b := by
  constructor
  · rintro ⟨founder, hfounder, hdm, hdn⟩
    obtain ⟨flag, hflag⟩ := h.founded founder hfounder
    have ha := hm.symm.trans (h.flag?_of_descends hflag hdm)
    have hb := hn.symm.trans (h.flag?_of_descends hflag hdn)
    exact Option.some.inj (ha.trans hb.symm)
  · rintro rfl
    obtain ⟨p, hp, hdm⟩ := h.descends m a hm
    obtain ⟨q, hq, hdn⟩ := h.descends n a hn
    obtain ⟨x, hx⟩ := h.founded p hp
    obtain ⟨y, hy⟩ := h.founded q hq
    have hpm := hm.symm.trans (h.flag?_of_descends hx hdm)
    have hqn := hn.symm.trans (h.flag?_of_descends hy hdn)
    obtain rfl := h.founder_inj p q hp hq (by rw [hx, hy, ← hpm, ← hqn])
    exact ⟨p, hp, hdm, hdn⟩

end Traced

/-! ## Cancelling -/

/-- What an operation does to the flags that are raised. -/
theorem Performed.flags_eq (hp : f.Performed op g) :
    (g.flags = f.flags ∧ ∀ i, op ≠ .cancel i) ∨
      ∃ i flag, op = .cancel i ∧ f.flag? (.handle i) = some flag ∧
        g.flags = f.flags.raise flag := by
  cases hp with
  | cancel hh => exact .inr ⟨_, _, rfl, hh, rfl⟩
  | read hop => exact .inl ⟨rfl, fun i hcancel => by rw [hcancel] at hop; exact hop⟩
  | _ => exact .inl ⟨rfl, by simp⟩

/-- The flags that are raised are those of the handles that cancelled. -/
structure Raised (ops : List Op) (f : Family) : Prop where
  known : ∀ i, .cancel i ∈ ops → ∃ flag, f.flag? (.handle i) = some flag
  isRaised_iff : ∀ flag, f.flags.isRaised flag = true ↔
    ∃ i, .cancel i ∈ ops ∧ f.flag? (.handle i) = some flag

/-- An operation raises the flag that it is said to, and no other. -/
theorem Raised.perform (h : Raised ops f) (hcounted : Counted ops f) (hp : f.Performed op g) :
    Raised (ops ++ [op]) g := by
  have hkept {m : Member} {flag : Nat} (hm : f.flag? m = some flag) : g.flag? m = some flag :=
    (hp.descent hcounted).flag?_eq hcounted hm
  -- whoever cancelled before has the flag that it had then
  have hbefore (flag : Nat) : (∃ i, .cancel i ∈ ops ∧ g.flag? (.handle i) = some flag) ↔
      f.flags.isRaised flag = true := by
    rw [h.isRaised_iff]
    refine exists_congr fun i => and_congr_right fun hi => ?_
    obtain ⟨flag', hflag⟩ := h.known i hi
    rw [hflag, hkept hflag]
  rcases hp.flags_eq with ⟨hflags, hne⟩ | ⟨i, flag, rfl, hflag, hflags⟩
  · have hmem {i : Nat} : .cancel i ∈ ops ++ [op] ↔ .cancel i ∈ ops := by
      simp [(hne i).symm]
    constructor
    · intro i hi
      obtain ⟨flag, hflag⟩ := h.known i (hmem.mp hi)
      exact ⟨flag, hkept hflag⟩
    · intro flag
      simp only [hflags, hmem, hbefore]
  · have hmem {j : Nat} : .cancel j ∈ ops ++ [.cancel i] ↔ .cancel j ∈ ops ∨ j = i := by
      simp
    constructor
    · intro j hj
      rcases hmem.mp hj with hold | rfl
      · obtain ⟨flag', hflag'⟩ := h.known j hold
        exact ⟨flag', hkept hflag'⟩
      · exact ⟨flag, hkept hflag⟩
    · intro flag'
      simp only [hflags, Flags.isRaised_raise, Bool.or_eq_true, beq_iff_eq, hmem, or_and_right,
        exists_or, hbefore, exists_eq_left, hkept hflag, Option.some.injEq]
      exact or_comm.trans (or_congr_right eq_comm)

/-- In every reachable family the raised flags are those that a member cancelled. -/
theorem raised_of_after (h : after ops = .ok f) : Raised ops f := by
  refine (after_induction (P := fun ops f => Counted ops f ∧ Raised ops f) ⟨⟨rfl, rfl⟩, ?_⟩
    (fun ops f op g hf hp => ⟨hp.counted hf.1, hf.2.perform hf.1 hp⟩) h).2
  exact ⟨fun i hi => absurd hi List.not_mem_nil, fun flag => by simp [start, Flags.isRaised,
    EmptyCollection.emptyCollection, Flags.empty]⟩

/-- Who is cancelled stays so. -/
theorem Performed.isCancelled?_eq (hp : f.Performed op g) (hcounted : Counted ops f)
    (hm : f.isCancelled? m = some true) : g.isCancelled? m = some true := by
  obtain ⟨flag, hflag, hraised⟩ := Option.map_eq_some_iff.mp hm
  have hkept : g.flag? m = some flag := (hp.descent hcounted).flag?_eq hcounted hflag
  rw [isCancelled?, hkept, Option.map_some]
  rcases hp.flags_eq with ⟨hflags, -⟩ | ⟨i, flag', -, -, hflags⟩
  · rw [hflags, hraised]
  · rw [hflags, Flags.isRaised_raise, hraised, Bool.or_true]

/-! ## Deadlines -/

def deadline? (f : Family) (i : Nat) : Option (Option Deadline) := f.contexts[i]?.map (·.deadline)

/-- The context whose deadline the operation sets, and that deadline.  A time span that the clock
does not reach sets none. -/
def Op.due? : Op → Option (Nat × Deadline)
  | .timeout i span => (Deadline.after? span).map (i, ·)
  | .deadline i offset => some (i, .fixed offset)
  | _ => none

/-- A change to a context shows in its own deadline. -/
theorem deadline?_put {i : Nat} {c d : Context} (hc : f.contexts[i]? = some c) (j : Nat) :
    (f.put i d).deadline? j = if i = j then some d.deadline else f.deadline? j := by
  rw [deadline?, getElem?_contexts_put hc, apply_ite (Option.map _), Option.map_some]
  rfl

/-- Only an operation that sets the deadline of a context changes it. -/
theorem Performed.deadline?_eq (hp : f.Performed op g) {i : Nat} {d : Option Deadline}
    (hop : ∀ due, op.due? ≠ some (i, due)) (hd : f.deadline? i = some d) :
    g.deadline? i = some d := by
  have happend (c : Context) {families : Nat} :
      deadline? { f with contexts := f.contexts ++ [c], families } i = some d := by
    obtain ⟨e, he, rfl⟩ := Option.map_eq_some_iff.mp hd
    have hlt : i < f.contexts.length := (List.getElem?_eq_some_iff.mp he).1
    rw [deadline?, List.getElem?_append_left hlt, he, Option.map_some]
  have hput {j : Nat} {c e : Context} (hc : f.contexts[j]? = some c)
      (he : i = j → e.deadline = c.deadline) : (f.put j e).deadline? i = some d := by
    rw [deadline?_put hc]
    split
    · next h =>
        subst h
        rw [deadline?, hc] at hd
        rw [he rfl, ← hd, Option.map_some]
    · exact hd
  cases hp with
  | new => exact happend _
  | clone hc => exact happend _
  | set hc | write hc | remove hc => exact hput hc fun _ => rfl
  | timeout hc hafter => exact hput hc fun h => absurd (by rw [Op.due?, hafter, h]; rfl) (hop _)
  | deadline hc => exact hput hc fun h => absurd (by rw [Op.due?, h]) (hop _)
  | handle | cloneHandle | cancel | read => exact hd

/-- Setting a deadline succeeds and reaches one context only. -/
theorem exists_due {i : Nat} {c : Context} {d : Deadline} (hc : f.contexts[i]? = some c)
    (hop : op.due? = some (i, d)) :
    ∃ g, f.perform op = .ok (.done, g) ∧ g = f.put i { c with deadline := some d } := by
  cases op with
  | timeout j span =>
      obtain ⟨d', hafter, heq⟩ := Option.map_eq_some_iff.mp hop
      cases heq
      refine ⟨_, ?_, rfl⟩
      rw [perform, context_eq_ok hc]
      simp only [bind, Except.bind, hafter]
      rfl
  | deadline j offset =>
      cases Option.some.inj hop
      refine ⟨_, ?_, rfl⟩
      rw [perform, context_eq_ok hc]
      rfl
  | _ => contradiction

/-- **Cancellation reaches the family, and nobody else.**  After every run,

1. a context or a handle is cancelled exactly if a handle that belongs to its family cancelled, at
   any time, be it before the context or handle was made or after; handles tell so;
2. whoever is cancelled stays so, whatever else is done;
3. setting a deadline changes the deadline of one context and nothing else, and cancels nobody;
4. a clone has the deadline that its source has at that time;
5. a deadline stays as it is until it is set in that very context. -/
theorem cancelled_by_family (h : after ops = .ok f) :
    (∀ m b, f.isCancelled? m = some b →
      (b = true ↔ ∃ i, .cancel i ∈ ops ∧ Kin ops (.handle i) m)) ∧
    (∀ i b, f.isCancelled? (.handle i) = some b →
      f.perform (.isCancelled i) = .ok (.flag b, f)) ∧
    (∀ more g m, after (ops ++ more) = .ok g →
      f.isCancelled? m = some true → g.isCancelled? m = some true) ∧
    (∀ op i d, op.due? = some (i, d) → i < f.contexts.length → ∃ g,
      f.perform op = .ok (.done, g) ∧ after (ops ++ [op]) = .ok g ∧
      g.deadline? i = some (some d) ∧
      g.contexts[i]?.map (·.extensions) = f.contexts[i]?.map (·.extensions) ∧
      (∀ j, j ≠ i → g.contexts[j]? = f.contexts[j]?) ∧
      ∀ m, g.isCancelled? m = f.isCancelled? m) ∧
    (∀ i d, f.deadline? i = some d →
      f.perform (.readDeadline i) = .ok (.deadline d, f) ∧
      ∃ g, after (ops ++ [.clone i]) = .ok g ∧ g.deadline? f.contexts.length = some d) ∧
    ∀ more g i d, after (ops ++ more) = .ok g → f.deadline? i = some d →
      (∀ op ∈ more, ∀ due, op.due? ≠ some (i, due)) → g.deadline? i = some d := by
  have htraced := traced_of_after h
  refine ⟨fun m b hm => ?family, fun i b hi => ?told, fun more g m hg hm => ?stays,
    fun op i d hop hi => ?set, fun i d hd => ⟨?read, ?clone⟩, fun more g i d hg hd hmore => ?kept⟩
  case family =>
    obtain ⟨flag, hflag, rfl⟩ := Option.map_eq_some_iff.mp hm
    rw [(raised_of_after h).isRaised_iff]
    refine exists_congr fun i => and_congr_right fun hi => ?_
    obtain ⟨flag', hflag'⟩ := (raised_of_after h).known i hi
    rw [htraced.kin_iff hflag' hflag, hflag', Option.some.injEq]
  case told =>
    obtain ⟨flag, hflag, rfl⟩ := Option.map_eq_some_iff.mp hi
    rw [perform, handle_eq_ok hflag]
    rfl
  case stays =>
    have hstep (f : Family) (op : Op) (g : Family) (_ : True)
        (hf : ∃ ops, Counted ops f ∧ f.isCancelled? m = some true) (hp : f.Performed op g) :
        ∃ ops, Counted ops g ∧ g.isCancelled? m = some true := by
      obtain ⟨ops, hcounted, hm⟩ := hf
      exact ⟨ops ++ [op], hp.counted hcounted, hp.isCancelled?_eq hcounted hm⟩
    obtain ⟨-, -, hend⟩ := keeps_of_after_append (Q := fun _ => True) hstep h
      ⟨ops, htraced.counted, hm⟩ (fun _ _ => trivial) hg
    exact hend
  case set =>
    have hc := List.getElem?_eq_getElem hi
    obtain ⟨g, hg, rfl⟩ := exists_due hc hop
    refine ⟨_, hg, after_concat_of_ok h hg, ?_, ?_, fun j hj => ?_, fun m => ?_⟩
    · rw [deadline?_put hc, if_pos rfl]
    · rw [put, List.getElem?_set_self hi, hc]
      rfl
    · exact List.getElem?_set_ne hj.symm
    · have hflag : (f.put i { f.contexts[i] with deadline := some d }).flag? m = f.flag? m := by
        refine flag?_put hc ?_ m
        rfl
      exact congrArg (Option.map f.flags.isRaised) hflag
  case read =>
    obtain ⟨c, hc, rfl⟩ := Option.map_eq_some_iff.mp hd
    rw [perform, context_eq_ok hc]
    rfl
  case clone =>
    obtain ⟨c, hc, rfl⟩ := Option.map_eq_some_iff.mp hd
    have hclone : f.perform (.clone i) = .ok (.cloned f.contexts.length true,
        { f with contexts := f.contexts ++ [c.clone] }) := by
      rw [perform, context_eq_ok hc]
      rfl
    refine ⟨_, after_concat_of_ok h hclone, ?_⟩
    simp [deadline?, Context.clone]
  case kept =>
    exact keeps_of_after_append (P := fun g => g.deadline? i = some d)
      (fun _ _ _ hop hd hp => hp.deadline?_eq hop hd) h hd hmore hg

end

/-- A handle on a clone of a clone cancels: its source and a clone that is made afterwards are
kin and cancelled, and another family is neither. -/
theorem cancelled_by_family_of_clone :
    let ops : List Op :=
      [.new, .clone 0, .clone 2, .handle 3, .cloneHandle 0, .cancel 1, .clone 0]
    (∃ f, after ops = .ok f ∧ f.isCancelled? (.context 0) = some true ∧
      f.isCancelled? (.context 4) = some true ∧ f.isCancelled? (.context 1) = some false) ∧
    Kin ops (.handle 1) (.context 0) ∧ Kin ops (.handle 1) (.context 4) ∧
    ¬ Kin ops (.handle 1) (.context 1) := by
  intro ops
  have hf : after ops = .ok _ := rfl
  obtain ⟨hfamily, -⟩ := cancelled_by_family hf
  have hcancel {i : Nat} : .cancel i ∈ ops ↔ i = 1 := by simp [ops]
  simp only [hcancel, exists_eq_left] at hfamily
  refine ⟨⟨_, hf, rfl, rfl, rfl⟩, (hfamily (.context 0) true rfl).mp rfl,
    (hfamily (.context 4) true rfl).mp rfl, fun hkin => ?_⟩
  exact Bool.false_ne_true ((hfamily (.context 1) false rfl).mpr hkin)

end OpStack.Context.Family
