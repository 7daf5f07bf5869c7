import OpStack.Proofs.Arrivals
import OpStack.Value.Source

/-!
# OpStack.Proofs.Stack.Display

The text of a stack for readers shows the identifiers in it, and their order, if none of them
has a line break.

1. The text is made of lines (`Stack.toList_display`): the identifier of the stack, and for each
   step its heading and its members, one and two tabs deep (`StepId.rows`).
2. Lines without line breaks can be told apart in the text (`lines_of_below`).
3. A heading is never as deep as a member, so the headings cut the lines into the members of
   each step (`lists_of_rows`).

`display_faithful` puts these together.  An identifier may begin with tabs or be the name of a
step: behind the two tabs of a member it is neither a heading nor a member of another depth.
-/

namespace OpStack

/-! ## Lines -/

namespace Text

/-- The lines below each other, each with a line break at its end. -/
def below (ls : List String) : List Char := ls.flatMap fun l => l.toList ++ ['\n']

theorem below_cons (l : String) (ls : List String) :
    below (l :: ls) = l.toList ++ '\n' :: below ls := by
  simp [below]

/-- The characters in front of the first line break. -/
theorem takeWhile_line {l : String} (h : '\n' ∉ l.toList) (rest : List Char) :
    (l.toList ++ '\n' :: rest).takeWhile (· != '\n') = l.toList := by
  rw [List.takeWhile_append_of_pos]
  · simp
  · intro c hc
    exact bne_iff_ne.mpr fun heq => h (heq ▸ hc)

/-- Lines without line breaks can be read off the text. -/
theorem lines_of_below {ls ms : List String} (hls : ∀ l ∈ ls, '\n' ∉ l.toList)
    (hms : ∀ m ∈ ms, '\n' ∉ m.toList) (h : below ls = below ms) : ls = ms := by
  induction ls generalizing ms with
  | nil =>
      cases ms with
      | nil => rfl
      | cons m ms => simp [below] at h
  | cons l ls ih =>
      cases ms with
      | nil => simp [below] at h
      | cons m ms =>
          obtain ⟨hl, hls⟩ := List.forall_mem_cons.mp hls
          obtain ⟨hm, hms⟩ := List.forall_mem_cons.mp hms
          rw [below_cons, below_cons] at h
          have hline : l.toList = m.toList := by
            rw [← takeWhile_line hl (below ls), h, takeWhile_line hm]
          rw [hline, List.append_cancel_left_eq, List.cons.injEq] at h
          rw [String.toList_inj.mp hline, ih hls hms h.2]

end Text

/-! ## Steps -/

open Text

def memberLine (id : String) : String := "\t\t" ++ id

/-- The line is at least two tabs deep. -/
def isDeep (l : String) : Bool := "\t\t".toList.isPrefixOf l.toList

/-- Lines of middleware are deep. -/
theorem isDeep_memberLine (id : String) : isDeep (memberLine id) = true := by
  rw [isDeep, memberLine, String.toList_append, List.isPrefixOf_iff_prefix]
  exact List.prefix_append _ _

/-- Different identifiers give different lines. -/
theorem memberLine_inj {id other : String} (h : memberLine id = memberLine other) : id = other := by
  have hlist := congrArg String.toList h
  rw [memberLine, memberLine, String.toList_append, String.toList_append] at hlist
  exact String.toList_inj.mp (List.append_cancel_left hlist)

namespace StepId

def heading (k : StepId) : String := "\t" ++ k.name

/-- Headings are not. -/
theorem isDeep_heading (k : StepId) : isDeep k.heading = false := by
  cases k <;> decide

theorem heading_unbroken (k : StepId) : '\n' ∉ k.heading.toList := by
  cases k <;> decide

/-- The lines of the step with middleware of these identifiers. -/
def rows (k : StepId) (ids : List String) : List String := k.heading :: ids.map memberLine

end StepId

/-- Behind the members of a step comes a heading, or nothing. -/
theorem takeWhile_isDeep (ids : List String) (ks : List StepId) (f : StepId → List String) :
    (ids.map memberLine ++ ks.flatMap fun k => k.rows (f k)).takeWhile isDeep =
      ids.map memberLine := by
  rw [List.takeWhile_append_of_pos]
  · cases ks with
    | nil => simp
    | cons k ks => simp [StepId.rows, k.isDeep_heading]
  · intro l hl
    obtain ⟨id, -, rfl⟩ := List.mem_map.mp hl
    exact isDeep_memberLine id

/-- The members of steps in a row can be told apart. -/
theorem lists_of_rows {ks : List StepId} {f g : StepId → List String}
    (h : ks.flatMap (fun k => k.rows (f k)) = ks.flatMap fun k => k.rows (g k)) :
    ∀ k ∈ ks, f k = g k := by
  induction ks with
  | nil => simp
  | cons k ks ih =>
      rw [List.flatMap_cons, List.flatMap_cons, StepId.rows, StepId.rows, List.cons_append,
        List.cons_append, List.cons.injEq] at h
      have hmembers : (f k).map memberLine = (g k).map memberLine := by
        rw [← takeWhile_isDeep (f k) ks f, h.2, takeWhile_isDeep]
      have hrest := h.2
      rw [hmembers, List.append_cancel_left_eq] at hrest
      exact List.forall_mem_cons.mpr ⟨(List.map_inj_right fun _ _ => memberLine_inj).mp hmembers,
        ih hrest⟩

/-! ## Stacks -/

section

variable [Payloads]

namespace Stack

/-- The lines of the text for readers. -/
def rows (s : Stack) : List String :=
  s.id :: StepId.all.flatMap fun k => k.rows (s.step k).list

/-- The text is its lines, one below the other. -/
theorem toList_display (s : Stack) : s.display.toList = below s.rows := by
  rw [rows, below_cons, display]
  simp [below, StepId.rows, StepId.heading, memberLine, String.toList_join, List.flatMap_map,
    List.flatMap_assoc, String.toList_append]

/-- Neither the identifier of the stack nor one of its middleware has a line break. -/
structure Unbroken (s : Stack) : Prop where
  id : '\n' ∉ s.id.toList
  members (k : StepId) : ∀ id ∈ (s.step k).list, '\n' ∉ id.toList

/-- Without line breaks in its identifiers, a stack has none within its lines. -/
theorem Unbroken.rows {s : Stack} (h : s.Unbroken) : ∀ l ∈ s.rows, '\n' ∉ l.toList := by
  rw [Stack.rows, List.forall_mem_cons]
  refine ⟨h.id, fun l hl => ?_⟩
  obtain ⟨k, -, hk⟩ := List.mem_flatMap.mp hl
  rcases List.mem_cons.mp hk with rfl | hmember
  · exact k.heading_unbroken
  · obtain ⟨id, hid, rfl⟩ := List.mem_map.mp hmember
    simpa [memberLine] using h.members k id hid

end Stack

/-- **The text for readers shows the order.**  The texts of two stacks without line breaks in
their identifiers are equal exactly if the stacks have the same identifier and each of the five
steps lists the same identifiers. -/
theorem display_faithful {s t : Stack} (hs : s.Unbroken) (ht : t.Unbroken) :
    s.display = t.display ↔ s.id = t.id ∧ ∀ k, (s.step k).list = (t.step k).list := by
  rw [← String.toList_inj, s.toList_display, t.toList_display]
  constructor
  · intro h
    have hrows := lines_of_below hs.rows ht.rows h
    rw [Stack.rows, Stack.rows, List.cons.injEq] at hrows
    exact ⟨hrows.1, fun k => lists_of_rows hrows.2 k (by cases k <;> simp [StepId.all])⟩
  · rintro ⟨hid, hlist⟩
    simp only [Stack.rows, hid, hlist]

end

/-- Middleware that are called like a step and a deeper line, in one step or in the next. -/
theorem display_faithful_headings :
    let m (id : String) : Middleware Request Response :=
      ⟨id, fun _ => .finish (.error (.raised "Unused" ""))⟩
    let ms := [m "Finalize stack step", m "\t\tx"]
    let s := Stack.holding { id := "\t" } (.counting 0) fun
      | .build => ms
      | _ => []
    let t := Stack.holding { id := "\t" } (.counting 0) fun
      | .finalize => ms
      | _ => []
    s.Unbroken ∧ t.Unbroken ∧ s.display ≠ t.display := by
  intro m ms s t
  have hs : s.Unbroken := ⟨by decide, fun k => by cases k <;> decide⟩
  have ht : t.Unbroken := ⟨by decide, fun k => by cases k <;> decide⟩
  refine ⟨hs, ht, fun h => ?_⟩
  have hbuild := ((display_faithful hs ht).mp h).2 .build
  exact absurd hbuild (by decide)

/-- A line break can feign a second middleware. -/
example :
    let m (id : String) : Middleware Parameters Response :=
      ⟨id, fun _ => .finish (.error (.raised "Unused" ""))⟩
    let holding ms := Stack.holding { id := "stack" } (.counting 0) fun
      | .init => ms
      | _ => []
    (holding [m "x\n\t\ty"]).display = (holding [m "x", m "y"]).display := by
  decide

end OpStack
