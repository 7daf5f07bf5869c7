import OpStack.Proofs.Text.Quoted
import OpStack.Stack.Basic

/-!
# OpStack.Proofs.Stack.Outline

The developer's text of a stack on one line shows the identifiers in it, and their order.

1. The text of a step is fixed but for the list of its middleware (`Step.compact_outline`), so it
   ends where that list says (`StepId.ending_portrait`).
2. The text of a stack is its identifier and the texts of its steps under fixed labels
   (`Stack.compact_outline`); taking them off from the left leaves one way to read it
   (`lists_of_labelled`).

`outline_faithful` puts both together; identifiers may hold anything that looks like the text
around them.
-/

namespace OpStack

open Text

/-! ## Steps -/

namespace StepId

/-- The text of a step with middleware of these identifiers. -/
def portrait (k : StepId) (ids : List String) : List Char :=
  ("Step" ++ " \x7b " ++ "id" ++ ": " ++ quote k.name ++ ", " ++ "middleware" ++ ": ").toList
    ++ (listed ids ++ " \x7d".toList)

/-- The text of a step says where it ends. -/
theorem ending_portrait (k : StepId) : Ending k.portrait :=
  (ending_listed.before _).after _

def label : StepId → String
  | init => "initialize"
  | serialize => "serialize"
  | build => "build"
  | finalize => "finalize"
  | deserialize => "deserialize"

/-- The text of a step in the text of a stack, under its label. -/
def labelled (k : StepId) (ids : List String) : List Char :=
  (", " ++ k.label ++ ": ").toList ++ k.portrait ids

/-- So it does behind its label. -/
theorem ending_labelled (k : StepId) : Ending k.labelled :=
  k.ending_portrait.after _

end StepId

variable [Payloads]

/-- The text of a step is made of its identifiers. -/
theorem Step.compact_outline {k : StepId} (s : Step k) :
    s.outline.compact.toList = k.portrait s.list := by
  rw [outline, Outline.toList_compact_record]
  simp only [Outline.compact, listed, StepId.portrait, String.toList_append, List.flatMap_cons,
    List.flatMap_nil, List.append_nil, List.append_assoc]

/-! ## Stacks -/

namespace Stack

/-- The text of a stack is made of its identifier and those of its steps. -/
theorem compact_outline (s : Stack) :
    s.outline.compact.toList = ("Stack" ++ " \x7b " ++ "id" ++ ": ").toList ++
      (quoteChars s.id.toList ++
        (StepId.all.flatMap (fun k => k.labelled (s.step k).list) ++ " \x7d".toList)) := by
  rw [outline, Outline.toList_compact_record]
  simp only [Outline.compact, StepId.labelled, ← Step.compact_outline, quote, StepId.all, StepId.label,
    step, String.toList_append, String.toList_ofList, List.flatMap_cons, List.flatMap_nil,
    List.append_nil, List.append_assoc]

/-- Steps in a row under their labels can be told apart. -/
theorem lists_of_labelled {s t : Stack} {ks : List StepId} {x y : List Char}
    (h : ks.flatMap (fun k => k.labelled (s.step k).list) ++ x =
      ks.flatMap (fun k => k.labelled (t.step k).list) ++ y) :
    ∀ k ∈ ks, (s.step k).list = (t.step k).list := by
  induction ks with
  | nil => simp
  | cons k ks ih =>
      simp only [List.flatMap_cons, List.append_assoc] at h
      obtain ⟨hlist, hrest⟩ := k.ending_labelled h
      simpa [hlist] using ih hrest

end Stack

/-- **The developer's text shows the order.**  The texts of two stacks on one line are equal exactly
if the stacks have the same identifier and each of the five steps lists the same identifiers; the
texts of two steps of one kind are equal exactly if both list the same identifiers.  This holds
whatever characters the identifiers are made of. -/
theorem outline_faithful :
    (∀ s t : Stack, s.outline.compact = t.outline.compact ↔
      s.id = t.id ∧ ∀ k, (s.step k).list = (t.step k).list) ∧
    ∀ (k : StepId) (s t : Step k), s.outline.compact = t.outline.compact ↔ s.list = t.list := by
  constructor
  · intro s t
    rw [← String.toList_inj, s.compact_outline, t.compact_outline]
    constructor
    · intro h
      obtain ⟨hid, hsteps⟩ := ending_quoteChars (List.append_cancel_left h)
      refine ⟨String.toList_inj.mp hid, fun k => ?_⟩
      exact Stack.lists_of_labelled hsteps k (by cases k <;> simp [StepId.all])
    · rintro ⟨hid, hlist⟩
      simp [hid, hlist]
  · intro k s t
    rw [← String.toList_inj, s.compact_outline, t.compact_outline]
    exact ⟨fun h => k.ending_portrait.injective h, congrArg _⟩

end OpStack
