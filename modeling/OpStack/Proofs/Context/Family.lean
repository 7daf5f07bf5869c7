import Mathlib.Data.List.Induction
import OpStack.Context.Family

/-!
# OpStack.Proofs.Context.Family

Runs of operations on contexts and handles.

* `Performed`: what an operation that does not stop asks for and leaves, one case for each that
  changes anything (`performed_of_ok`).
* `after`: what a run leaves, from one new context on, as long as no operation stops;
  `after_induction` follows it operation by operation.
* `Lasting`: what a run has done and not undone since (`lasting_concat`), the words in which runs
  are described without the contexts they lead to.
-/

namespace OpStack.Context.Family

variable [Payloads]

/-! ## One operation -/

/-- The operation only tells something. -/
def Op.Reads : Op → Prop
  | .get _ _ | .has _ _ | .isCancelled _ | .readDeadline _ | .clock _ => True
  | _ => False

/-- What an operation asks for, and what it leaves. -/
inductive Performed (f : Family) : Op → Family → Prop
  | new :
    Performed f .new
      { f with contexts := f.contexts ++ [{ flag := f.families }], families := f.families + 1 }
  | clone {i : Nat} {c : Context} (hc : f.contexts[i]? = some c) :
    Performed f (.clone i) { f with contexts := f.contexts ++ [c.clone] }
  | set {i : Nat} {c : Context} {v : Payload} (hc : f.contexts[i]? = some c) :
    Performed f (.set i v) (f.put i { c with extensions := c.extensions.setValue v })
  | write {i : Nat} {c : Context} {v : Payload} (hc : f.contexts[i]? = some c) :
    Performed f (.write i v) (f.put i { c with extensions := c.extensions.writeValue v })
  | remove {i : Nat} {c : Context} {k : Payload.Kind} (hc : f.contexts[i]? = some c) :
    Performed f (.remove i k) (f.put i { c with extensions := c.extensions.erase k })
  | handle {i : Nat} {c : Context} (hc : f.contexts[i]? = some c) :
    Performed f (.handle i) { f with handles := f.handles ++ [c.flag] }
  | cloneHandle {h flag : Nat} (hh : f.handles[h]? = some flag) :
    Performed f (.cloneHandle h) { f with handles := f.handles ++ [flag] }
  | cancel {h flag : Nat} (hh : f.handles[h]? = some flag) :
    Performed f (.cancel h) { f with flags := f.flags.raise flag }
  | timeout {i span : Nat} {c : Context} {d : Deadline} (hc : f.contexts[i]? = some c)
    (hd : Deadline.after? span = some d) :
    Performed f (.timeout i span) (f.put i { c with deadline := some d })
  | deadline {i offset : Nat} {c : Context} (hc : f.contexts[i]? = some c) :
    Performed f (.deadline i offset) (f.put i { c with deadline := some (.fixed offset) })
  | read {op : Op} (hop : op.Reads) : Performed f op f

variable {f g : Family}

/-- Whoever is put in the place of a context that is there is found there, and alone. -/
theorem getElem?_contexts_put {i : Nat} {c : Context} (hc : f.contexts[i]? = some c) (d : Context)
    (j : Nat) : (f.put i d).contexts[j]? = if i = j then some d else f.contexts[j]? := by
  have hlt : i < f.contexts.length := (List.getElem?_eq_some_iff.mp hc).1
  rw [put, List.getElem?_set, if_pos hlt]

theorem context_eq_ok {i : Nat} {c : Context} (hc : f.contexts[i]? = some c) :
    f.context i = .ok c := by
  rw [context, hc]

theorem handle_eq_ok {h flag : Nat} (hh : f.handles[h]? = some flag) : f.handle h = .ok flag := by
  rw [handle, hh]

/-- An operation on a context that was done found it. -/
theorem exists_of_context {α : Type} {i : Nat} {k : Context → Except Stop α} {x : α}
    (h : (f.context i >>= k) = .ok x) : ∃ c, f.contexts[i]? = some c ∧ k c = .ok x := by
  rw [context] at h
  cases hc : f.contexts[i]? with
  | none => rw [hc] at h; contradiction
  | some c => rw [hc] at h; exact ⟨c, rfl, h⟩

/-- An operation on a handle that was done found it. -/
theorem exists_of_handle {α : Type} {i : Nat} {k : Nat → Except Stop α} {x : α}
    (h : (f.handle i >>= k) = .ok x) : ∃ flag, f.handles[i]? = some flag ∧ k flag = .ok x := by
  rw [handle] at h
  cases hh : f.handles[i]? with
  | none => rw [hh] at h; contradiction
  | some flag => rw [hh] at h; exact ⟨flag, rfl, h⟩

/-- What was done is one of the ways in which operations go. -/
theorem performed_of_ok {op : Op} {r : Reply} (h : f.perform op = .ok (r, g)) :
    f.Performed op g := by
  cases op with
  | new => cases h; exact .new
  | clone i => obtain ⟨c, hc, hg⟩ := exists_of_context h; cases hg; exact .clone hc
  | set i v => obtain ⟨c, hc, hg⟩ := exists_of_context h; cases hg; exact .set hc
  | write i v => obtain ⟨c, hc, hg⟩ := exists_of_context h; cases hg; exact .write hc
  | remove i k => obtain ⟨c, hc, hg⟩ := exists_of_context h; cases hg; exact .remove hc
  | handle i => obtain ⟨c, hc, hg⟩ := exists_of_context h; cases hg; exact .handle hc
  | cloneHandle h' => obtain ⟨flag, hh, hg⟩ := exists_of_handle h; cases hg; exact .cloneHandle hh
  | cancel h' => obtain ⟨flag, hh, hg⟩ := exists_of_handle h; cases hg; exact .cancel hh
  | timeout i span =>
      obtain ⟨c, hc, hg⟩ := exists_of_context h
      cases hd : Deadline.after? span with
      | none => rw [hd] at hg; contradiction
      | some d => rw [hd] at hg; cases hg; exact .timeout hc hd
  | deadline i offset => obtain ⟨c, hc, hg⟩ := exists_of_context h; cases hg; exact .deadline hc
  | isCancelled h' => obtain ⟨flag, -, hg⟩ := exists_of_handle h; cases hg; exact .read trivial
  | get | has | readDeadline | clock =>
      obtain ⟨c, -, hg⟩ := exists_of_context h
      cases hg
      exact .read trivial

/-! ## Runs -/

/-- What operations leave, from one new context on, as long as none of them stops. -/
def after (ops : List Op) : Except Stop Family :=
  ops.foldlM (fun f op => (f.perform op).map (·.2)) start

/-- A run in two parts: the second goes on where the first has ended. -/
theorem after_append (ops more : List Op) :
    after (ops ++ more) =
      (after ops).bind fun f => more.foldlM (fun f op => (f.perform op).map (·.2)) f :=
  List.foldlM_append

/-- One operation more, which was done. -/
theorem after_concat_of_ok {ops : List Op} {op : Op} {r : Reply} (hf : after ops = .ok f)
    (h : f.perform op = .ok (r, g)) : after (ops ++ [op]) = .ok g := by
  rw [after_append, hf]
  simp [Except.bind, h, Except.map, pure, Except.pure, bind]

/-- The last operation of a run was done, after those before it. -/
theorem exists_of_after_concat {ops : List Op} {op : Op} (h : after (ops ++ [op]) = .ok g) :
    ∃ f, after ops = .ok f ∧ f.Performed op g := by
  rw [after_append] at h
  cases hf : after ops with
  | error e => rw [hf] at h; contradiction
  | ok f =>
      rw [hf] at h
      cases hp : f.perform op with
      | error e => simp [Except.bind, hp, Except.map, bind] at h
      | ok p =>
          obtain ⟨r, g'⟩ := p
          simp [Except.bind, hp, Except.map, pure, Except.pure, bind] at h
          exact ⟨f, rfl, performed_of_ok (h ▸ hp)⟩

/-- What holds at the start and is kept by each operation holds after every run. -/
theorem after_induction {P : List Op → Family → Prop} (hstart : P [] start)
    (hstep : ∀ ops f op g, P ops f → f.Performed op g → P (ops ++ [op]) g)
    {ops : List Op} (h : after ops = .ok f) : P ops f := by
  induction ops using List.reverseRecOn generalizing f with
  | nil => cases h; exact hstart
  | append_singleton ops op ih =>
      obtain ⟨e, he, hp⟩ := exists_of_after_concat h
      exact hstep ops e op f (ih he) hp

/-- What the later operations of a run keep still holds at its end. -/
theorem keeps_of_after_append {P : Family → Prop} {Q : Op → Prop}
    (hstep : ∀ f op g, Q op → P f → f.Performed op g → P g) {ops more : List Op}
    (hf : after ops = .ok f) (hP : P f) (hQ : ∀ op ∈ more, Q op)
    (h : after (ops ++ more) = .ok g) : P g := by
  induction more using List.reverseRecOn generalizing g with
  | nil =>
      rw [List.append_nil, hf] at h
      exact Except.ok.inj h ▸ hP
  | append_singleton more op ih =>
      rw [← List.append_assoc] at h
      obtain ⟨e, he, hp⟩ := exists_of_after_concat h
      exact hstep e op g (hQ op (by simp)) (ih (fun o ho => hQ o (by simp [ho])) he) hp

/-! ## What runs have done -/

/-- An operation of the run did `P`, given the operations before it, and all later ones keep
`Q`. -/
def Lasting (P : List Op → Op → Prop) (Q : Op → Prop) (ops : List Op) : Prop :=
  ∃ before op later, ops = before ++ op :: later ∧ P before op ∧ ∀ o ∈ later, Q o

/-- An operation of the run did `P`, given the operations before it. -/
def Once (P : List Op → Op → Prop) (ops : List Op) : Prop :=
  ∃ before op later, ops = before ++ op :: later ∧ P before op

variable {P : List Op → Op → Prop} {Q : Op → Prop}

/-- Nothing lasts that never happened. -/
theorem lasting_nil : ¬ Lasting P Q [] := by
  rintro ⟨before, op, later, h, -⟩
  simp at h

/-- The last operation does it, or keeps what has been done before. -/
theorem lasting_concat {ops : List Op} {op : Op} :
    Lasting P Q (ops ++ [op]) ↔ P ops op ∨ (Q op ∧ Lasting P Q ops) := by
  constructor
  · rintro ⟨before, o, later, h, hP, hQ⟩
    rcases List.eq_nil_or_concat later with rfl | ⟨later, last, rfl⟩
    · obtain ⟨rfl, hop⟩ := List.append_inj' h rfl
      exact .inl (by simpa using (List.cons.inj hop).1 ▸ hP)
    · rw [List.concat_eq_append, ← List.cons_append, ← List.append_assoc] at h
      obtain ⟨rfl, hop⟩ := List.append_inj' h rfl
      obtain rfl : op = last := (List.cons.inj hop).1
      exact .inr ⟨hQ op (by simp), before, o, later, rfl, hP, fun x hx => hQ x (by simp [hx])⟩
  · rintro (hP | ⟨hop, before, o, later, rfl, hP, hQ⟩)
    · exact ⟨ops, op, [], rfl, hP, by simp⟩
    · refine ⟨before, o, later ++ [op], by simp, hP, fun x hx => ?_⟩
      rcases List.mem_append.mp hx with hx | hx
      · exact hQ x hx
      · exact List.mem_singleton.mp hx ▸ hop

/-- To have happened is to last when nothing ends it. -/
theorem once_iff_lasting {ops : List Op} : Once P ops ↔ Lasting P (fun _ => True) ops := by
  simp [Once, Lasting]

theorem once_nil : ¬ Once P [] := by
  simpa [once_iff_lasting] using lasting_nil

/-- It has happened if it does now or did before. -/
theorem once_concat {ops : List Op} {op : Op} : Once P (ops ++ [op]) ↔ P ops op ∨ Once P ops := by
  simp [once_iff_lasting, lasting_concat]

end OpStack.Context.Family
