import OpStack.Proofs.Document.Scanning

/-!
# OpStack.Proofs.Document.Assembling

A text that says a value is read as that value.

The machine meets the lexemes of a value where a value must come, and leaves them with the draft of
the value delivered (`run_tree`).  Only a number beyond all floats can stop it in between; then what
was read is cut short, and so is the draft of the value (`Draft.Cut`).
-/

namespace OpStack.Document

/-- Something in the draft is broken off. -/
inductive Draft.Cut : Draft → Prop
  | broken : Cut .broken
  | list {items : List Draft} {d : Draft} (h : d ∈ items) (hd : Cut d) : Cut (.list items)
  | table {members : List (Draft × Draft)} {key d : Draft} (h : (key, d) ∈ members) (hd : Cut d) :
    Cut (.table members)

namespace Json

/-! ## The draft of a value -/

/-- The draft of a number. -/
def numberDraft (numeral : List Char) : Draft := (numberDraft? numeral).getD .broken

namespace Tree

mutual

/-- The draft that says the value. -/
def draft : Tree → Draft
  | null => .null
  | flag b => .flag b
  | number numeral => numberDraft numeral
  | text s => .text s
  | list items => .list (drafts items)
  | table members => .table (memberDrafts members)

def drafts : List Tree → List Draft
  | [] => []
  | t :: ts => t.draft :: drafts ts

def memberDrafts : List (String × Tree) → List (Draft × Draft)
  | [] => []
  | (name, t) :: ms => (.text name, t.draft) :: memberDrafts ms

end

theorem draft_list_cons (t : Tree) (ts : List Tree) :
    (list (t :: ts)).draft = .list (t.draft :: drafts ts) := rfl

theorem draft_table_cons (name : String) (t : Tree) (ms : List (String × Tree)) :
    (table ((name, t) :: ms)).draft = .table ((.text name, t.draft) :: memberDrafts ms) := rfl

/-- The draft of a number is that of a number, or broken. -/
theorem numberDraft_ne {d : Draft} (hnumber : ¬ IsNumber d) (hbroken : d ≠ .broken)
    (numeral : List Char) : numberDraft numeral ≠ d := by
  rintro rfl
  rw [numberDraft, numberDraft?] at *
  cases hread : number? numeral with
  | none => exact hbroken (by rw [hread]; rfl)
  | some r =>
      rw [hread] at hnumber
      exact hnumber (number?_isNumber hread)

/-- A draft that is a text was that of a text. -/
theorem eq_text_of_draft {t : Tree} {s : String} (h : t.draft = .text s) : t = .text s := by
  cases t with
  | text s => exact congrArg text (Draft.text.inj h)
  | number numeral => exact absurd h (numberDraft_ne (by simp [IsNumber]) (by simp) numeral)
  | _ => cases h

theorem eq_flag_of_draft {t : Tree} {b : Bool} (h : t.draft = .flag b) : t = .flag b := by
  cases t with
  | flag b => exact congrArg flag (Draft.flag.inj h)
  | number numeral => exact absurd h (numberDraft_ne (by simp [IsNumber]) (by simp) numeral)
  | _ => cases h

/-- A draft that is a table was that of a table, with these members. -/
theorem eq_table_of_draft {t : Tree} {ds : List (Draft × Draft)} (h : t.draft = .table ds) :
    ∃ ms, t = .table ms ∧ ds = memberDrafts ms := by
  cases t with
  | table ms => exact ⟨ms, rfl, (Draft.table.inj h).symm⟩
  | number numeral => exact absurd h (numberDraft_ne (by simp [IsNumber]) (by simp) numeral)
  | _ => cases h

/-- A draft that is a list was that of a list. -/
theorem eq_list_of_draft {t : Tree} {ds : List Draft} (h : t.draft = .list ds) :
    ∃ items, t = .list items := by
  cases t with
  | list items => exact ⟨items, rfl⟩
  | number numeral => exact absurd h (numberDraft_ne (by simp [IsNumber]) (by simp) numeral)
  | _ => cases h

/-- Members are drafted one by one. -/
theorem memberDrafts_eq_map (members : List (String × Tree)) :
    memberDrafts members = members.map fun m => (.text m.1, m.2.draft) := by
  induction members with
  | nil => rfl
  | cons m ms ih => rw [memberDrafts, ih]; rfl

theorem mem_memberDrafts_iff {members : List (String × Tree)} {key d : Draft} :
    (key, d) ∈ memberDrafts members ↔
      ∃ name t, (name, t) ∈ members ∧ key = .text name ∧ d = t.draft := by
  simp [memberDrafts_eq_map, eq_comm]

/-- Names are different as drafts if they are different. -/
theorem nodup_memberDrafts_iff {members : List (String × Tree)} :
    ((memberDrafts members).map Prod.fst).Nodup ↔ (members.map Prod.fst).Nodup := by
  have hnames : (memberDrafts members).map Prod.fst = (members.map Prod.fst).map Draft.text := by
    simp [memberDrafts_eq_map]
  rw [hnames]
  exact ⟨List.Pairwise.of_map Draft.text fun _ _ => mt (congrArg Draft.text),
    List.Pairwise.map Draft.text fun _ _ => mt Draft.text.inj⟩

end Tree

/-! ## Cut short -/

/-- To close a frame does not mend what was cut off. -/
theorem cut_close {d : Draft} (h : d.Cut) (f : Frame) : (f.close d).Cut := by
  cases f with
  | list items => exact .list (List.mem_append_right _ (List.mem_singleton_self d)) h
  | table members => exact .table (List.mem_append_right _ (List.mem_singleton_self _)) .broken
  | member members name => exact .table (List.mem_append_right _ (List.mem_singleton_self _)) h

theorem cut_foldl_close {frames : List Frame} {d : Draft} (h : d.Cut) :
    (frames.foldl (fun d f => f.close d) d).Cut := by
  induction frames generalizing d with
  | nil => exact h
  | cons f fs ih => exact ih (cut_close h f)

/-- The value was delivered, or reading has stopped, and the value is cut short. -/
def Delivered (frames : List Frame) (d : Draft) (s : State) : Prop :=
  s = deliver frames d ∨ d.Cut ∧ ∃ doc, s = .ended doc ∧ doc.root.Cut

/-- After a part was delivered, the machine goes on to the whole. -/
theorem Delivered.andThen {inner frames : List Frame} {d e : Draft} {s : State}
    {ls ms : List Lexeme} (h : Delivered inner d (run s ls)) (hcut : d.Cut → e.Cut)
    (hrest : Delivered frames e (run (deliver inner d) ms)) :
    Delivered frames e (run s (ls ++ ms)) := by
  rw [run_append]
  rcases h with h | ⟨hd, doc, h, hdoc⟩
  · rw [h]
    exact hrest
  · rw [h, run_ended]
    exact .inr ⟨hcut hd, doc, rfl, hdoc⟩

/-! ## The machine over a value -/

section Steps

variable (members : List (Draft × Draft)) (items : List Draft) (frames : List Frame)

@[simp] theorem step_entry_list_close :
    (State.entry true (.list items :: frames)).step (.mark ']') = deliver frames (.list []) := rfl

@[simp] theorem step_entry_table_close :
    (State.entry true (.table members :: frames)).step (.mark '\x7d') =
      deliver frames (.table []) := rfl

@[simp] theorem step_entry_name (first : Bool) (name : String) :
    (State.entry first (.table members :: frames)).step (.scalar (.text name)) =
      .colon (.member members (.text name) :: frames) := rfl

@[simp] theorem step_colon : (State.colon frames).step (.mark ':') = .value frames := rfl

@[simp] theorem step_after_list_close :
    (State.after (.list items :: frames)).step (.mark ']') =
      deliver frames (.list items.reverse) := rfl

@[simp] theorem step_after_list_comma :
    (State.after (.list items :: frames)).step (.mark ',') =
      .entry false (.list items :: frames) := rfl

@[simp] theorem step_after_table_close :
    (State.after (.table members :: frames)).step (.mark '\x7d') =
      deliver frames (.table members.reverse) := rfl

@[simp] theorem step_after_table_comma :
    (State.after (.table members :: frames)).step (.mark ',') =
      .entry false (.table members :: frames) := rfl

end Steps

/-- A value may come, as an item, as a member or by itself. -/
def Awaits (s : State) (frames : List Frame) : Prop :=
  ∀ t : Token, t ≠ .mark ']' → s.step t = readValue frames t

/-- Where a value may stand, it goes to the frames around it. -/
theorem awaits_value (frames : List Frame) : Awaits (.value frames) frames := fun _ _ => rfl

/-- So it is at the entries of a list. -/
theorem awaits_entry (first : Bool) (items : List Draft) (fs : List Frame) :
    Awaits (.entry first (.list items :: fs)) (.list items :: fs) := by
  intro t ht
  rw [State.step] <;> simp [ht]

/-- A numeral is delivered as the number it stands for, or is no number at all. -/
theorem delivered_number {s : State} {frames : List Frame} (h : Awaits s frames)
    (numeral : List Char) :
    Delivered frames (numberDraft numeral) (s.step (.ofDraft? (numberDraft? numeral))) := by
  rw [numberDraft]
  cases numberDraft? numeral with
  | none => exact .inr ⟨.broken, _, h _ (by simp [Token.ofDraft?]), cut_foldl_close .broken⟩
  | some d => exact .inl (h _ (by simp [Token.ofDraft?]))

mutual

-- By recursion on the value.  An item or a member is read in the frame of its list or table, and
-- once it is delivered there, what stands behind it is read by the lemma for the rest.

/-- Over the lexemes of a value its draft is delivered. -/
theorem delivered_run {s : State} {frames : List Frame} (h : Awaits s frames) :
    ∀ t : Tree, Delivered frames t.draft (run s t.lexemes)
  | .null => .inl (h (.scalar .null) (by simp))
  | .flag b => .inl (h (.scalar (.flag b)) (by simp))
  | .text s => .inl (h (.scalar (.text s)) (by simp))
  | .number numeral => delivered_number h numeral
  | .list items => by
      have hopen : s.step (.mark '[') = .entry true (.list [] :: frames) := h _ (by simp)
      rw [Tree.lexemes, run_cons, Lexeme.token, hopen]
      cases items with
      | nil => exact .inl (by simp [Tree.listed, Lexeme.token, Tree.draft, Tree.drafts])
      | cons t ts =>
          rw [Tree.listed, List.append_assoc, Tree.draft_list_cons]
          refine (delivered_run (awaits_entry true [] frames) t).andThen
            (.list List.mem_cons_self) ?_
          exact delivered_listedRest [t.draft] frames ts
  | .table members => by
      have hopen : s.step (.mark '\x7b') = .entry true (.table [] :: frames) := h _ (by simp)
      rw [Tree.lexemes, run_cons, Lexeme.token, hopen]
      cases members with
      | nil => exact .inl (by simp [Tree.entries, Lexeme.token, Tree.draft, Tree.memberDrafts])
      | cons m ms =>
          obtain ⟨name, t⟩ := m
          simp only [Tree.entries, run_cons, Lexeme.token, step_entry_name, step_colon,
            List.cons_append, List.append_assoc, Tree.draft_table_cons]
          refine (delivered_run (awaits_value _) t).andThen (.table List.mem_cons_self) ?_
          exact delivered_entriesRest [(.text name, t.draft)] frames ms

/-- The rest of a list is delivered behind what was read of it. -/
theorem delivered_listedRest (acc : List Draft) (frames : List Frame) :
    ∀ ts : List Tree, Delivered frames (.list (acc.reverse ++ Tree.drafts ts))
      (run (.after (.list acc :: frames)) (Tree.listedRest ts ++ [.mark ']']))
  | [] => .inl (by simp [Tree.listedRest, Tree.drafts, Lexeme.token])
  | t :: ts => by
      simp only [Tree.listedRest, run_cons, Lexeme.token, step_after_list_comma,
        List.cons_append, List.append_assoc]
      refine (delivered_run (awaits_entry false acc frames) t).andThen (.list ?_) ?_
      · simp [Tree.drafts]
      · simpa [Tree.drafts, deliver] using delivered_listedRest (t.draft :: acc) frames ts

/-- The rest of a table is delivered behind what was read of it. -/
theorem delivered_entriesRest (acc : List (Draft × Draft)) (frames : List Frame) :
    ∀ ms : List (String × Tree), Delivered frames (.table (acc.reverse ++ Tree.memberDrafts ms))
      (run (.after (.table acc :: frames)) (Tree.entriesRest ms ++ [.mark '\x7d']))
  | [] => .inl (by simp [Tree.entriesRest, Tree.memberDrafts, Lexeme.token])
  | (name, t) :: ms => by
      simp only [Tree.entriesRest, run_cons, Lexeme.token, step_after_table_comma,
        step_entry_name, step_colon, List.cons_append, List.append_assoc]
      have hmem : (.text name, t.draft) ∈ acc.reverse ++ Tree.memberDrafts ((name, t) :: ms) := by
        simp [Tree.memberDrafts]
      refine (delivered_run (awaits_value _) t).andThen (.table hmem) ?_
      simpa [Tree.memberDrafts, deliver] using
        delivered_entriesRest ((.text name, t.draft) :: acc) frames ms

end

/-- A text that says a value is read as the value, or value and document are cut short. -/
theorem Tree.Written.read_eq {t : Tree} {text : String} (h : t.Written text) :
    read text = ⟨t.draft, true⟩ ∨ t.draft.Cut ∧ (read text).root.Cut := by
  rw [read, h.foldl_tokens]
  rcases delivered_run (awaits_value []) t with hrun | ⟨hcut, doc, hrun, hdoc⟩
  · rw [hrun]
    exact .inl rfl
  · rw [hrun]
    exact .inr ⟨hcut, hdoc⟩

end Json

end OpStack.Document
