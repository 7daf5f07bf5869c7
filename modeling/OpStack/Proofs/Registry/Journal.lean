import OpStack.Proofs.Registry.Cells
import OpStack.Trace

/-!
# OpStack.Proofs.Registry.Journal

What an observer of a registry can know.  Of every event he is told a `Notice`: a level, a
text and fields.  `Notice.replay` keeps a list of identifiers from notices alone:

```
ordered ids cleared   —                                     []
middleware removed    middleware_id                         without it
middleware added      middleware_id, position               at the front or the back
middleware inserted   middleware_id, relative_to, position  next to the other one
middleware swapped    middleware_id, replacement            the other one in its place
middleware swapped    middleware_id                         as it was
```

* `events_perform`: a change that succeeds reports its `Op.event?`, and nothing else is
  reported.
* `replay_event`: its notice does to the identifiers what the change does to the entries.

`journal_faithful` puts them together over a run.
-/

namespace OpStack

open Registry

/-! ## Notices -/

/-- What an observer is told of an event. -/
structure Notice where
  level : Level
  message : String
  fields : List (String × FieldValue)
  deriving DecidableEq, Repr

def Event.notice (e : Event) : Notice := ⟨e.level, e.message, e.fields⟩

namespace Notice

/-- The text in the field of this name, if there is one. -/
def text? (n : Notice) (name : String) : Option String :=
  match n.fields.lookup name with
  | some (.text s) => some s
  | some (.count _) | some (.flag _) | none => none

/-- The identifiers after what the notice tells. -/
def replay (ids : List String) (n : Notice) : List String :=
  match n.message, n.text? "middleware_id" with
  | "ordered ids cleared", _ => []
  | "middleware removed", some id => ids.erase id
  | "middleware added", some id =>
    match n.text? "position" with
    | some "Before" => id :: ids
    | some "After" => ids ++ [id]
    | _ => ids
  | "middleware inserted", some id =>
    match n.text? "relative_to", n.text? "position" with
    | some anchor, some "Before" => ids.insertIdx (ids.idxOf anchor) id
    | some anchor, some "After" => ids.insertIdx (ids.idxOf anchor + 1) id
    | _, _ => ids
  | "middleware swapped", some id =>
    match n.text? "replacement" with
    | some new => ids.replace id new
    | none => ids
  | _, _ => ids

/-- The identifiers after all that the notices tell, at first none. -/
def replayAll (ns : List Notice) : List String := ns.foldl replay []

end Notice

namespace Registry

def notices (es : List Event) : List Notice := es.map fun e => (OpStack.Event.registry e).notice

/-! ## What is reported -/

variable {α : Type}

/-- A change reports its event if it succeeds, and nothing if it fails. -/
theorem events_ofChange {β : Type} (r : Registry α) {reply : β → Reply α}
    (hreply : ∀ b e, reply b ≠ .failed e) {change : Except Error (Change α β)} {event : Event}
    (hevent : ∀ c, change = .ok c → c.event = event) :
    ((∀ e, (Performed.ofChange r reply change).reply ≠ .failed e) ∧
        (Performed.ofChange r reply change).events = [event]) ∨
      ((∃ e, (Performed.ofChange r reply change).reply = .failed e) ∧
        (Performed.ofChange r reply change).events = []) := by
  cases change with
  | ok c => exact .inl ⟨hreply c.value, congrArg ([·]) (hevent c rfl)⟩
  | error e => exact .inr ⟨⟨e, rfl⟩, rfl⟩

theorem event_of_remove {r : Registry α} {id : String} {c : Change α α}
    (h : r.remove id = .ok c) : c.event = .removed id := by
  simp only [remove] at h
  split at h
  · rw [← Except.ok.inj h]
  · contradiction

variable [Identified α]

/-- What the operation reports if it succeeds. -/
def Op.event? : Op α → Option Event
  | add entry position => some (.added (Identified.id entry) position)
  | insert entry anchor position => some (.inserted (Identified.id entry) anchor position)
  | swap id entry =>
    some (.swapped id (if Identified.id entry = id then none else some (Identified.id entry)))
  | remove id => some (.removed id)
  | clear => some .cleared
  | get _ | contains _ | size | ids | order => none

/-- Exactly the changes have an event. -/
theorem Op.event?_eq_none_iff {op : Op α} : op.event? = none ↔ ¬ op.Alters := by
  cases op <;> simp [event?, Alters]

/-- A new entry takes the identifier that it reports. -/
theorem newId_eq_ok {r : Registry α} {entry : α} {id : String} (h : r.newId entry = .ok id) :
    id = Identified.id entry := by
  simp only [newId] at h
  split at h
  · contradiction
  · split at h
    · contradiction
    · exact (Except.ok.inj h).symm

/-- An entry that is added opens a place. -/
theorem change_of_add {r : Registry α} {entry : α} {position : Position} {c : Change α Unit}
    (h : r.add entry position = .ok c) :
    ∃ i ≤ r.size, c = ⟨(), [.place i (Identified.id entry) entry],
      .added (Identified.id entry) position⟩ := by
  cases hid : r.newId entry with
  | error e => simp [add, hid, bind, Except.bind] at h
  | ok id =>
      simp only [add, hid, bind, Except.bind, pure, Except.pure, Except.ok.injEq] at h
      rw [← h, newId_eq_ok hid]
      cases position with
      | before => exact ⟨0, Nat.zero_le _, rfl⟩
      | after => exact ⟨r.size, Nat.le_refl _, rfl⟩

/-- An entry that is inserted opens a place. -/
theorem change_of_insert {r : Registry α} {entry : α} {anchor : String} {position : Position}
    {c : Change α Unit} (h : r.insert entry anchor position = .ok c) :
    ∃ i ≤ r.size, c = ⟨(), [.place i (Identified.id entry) entry],
      .inserted (Identified.id entry) anchor position⟩ := by
  cases hid : r.newId entry with
  | error e => simp [insert, hid, bind, Except.bind] at h
  | ok id =>
      simp only [insert, hid, bind, Except.bind, pure, Except.pure] at h
      split at h
      · contradiction
      · next i hanchor =>
          have hi : i < r.size := (List.findIdx?_eq_some_iff_getElem.mp hanchor).1
          rw [← Except.ok.inj h, newId_eq_ok hid]
          cases position with
          | before => exact ⟨i, Nat.le_of_lt hi, rfl⟩
          | after => exact ⟨i + 1, hi, rfl⟩

/-- An addition is told with its identifier and end. -/
theorem event_of_add {r : Registry α} {entry : α} {position : Position} {c : Change α Unit}
    (h : r.add entry position = .ok c) : c.event = .added (Identified.id entry) position := by
  obtain ⟨i, -, rfl⟩ := change_of_add h
  rfl

/-- An insertion is told with its anchor and side. -/
theorem event_of_insert {r : Registry α} {entry : α} {anchor : String} {position : Position}
    {c : Change α Unit} (h : r.insert entry anchor position = .ok c) :
    c.event = .inserted (Identified.id entry) anchor position := by
  obtain ⟨i, -, rfl⟩ := change_of_insert h
  rfl

/-- A swap is told with the new identifier, unless it stays. -/
theorem event_of_swap {r : Registry α} {id : String} {entry : α} {c : Change α α}
    (h : r.swap id entry = .ok c) :
    c.event =
      .swapped id (if Identified.id entry = id then none else some (Identified.id entry)) := by
  simp only [swap] at h
  split at h
  · split at h
    · contradiction
    · split at h
      · next hsame => rw [← Except.ok.inj h, if_pos hsame]
      · next hother =>
          split at h
          · contradiction
          · rw [← Except.ok.inj h, if_neg hother]
  · contradiction

/-- An operation reports its event if it has one and succeeds, and nothing if it fails. -/
theorem events_perform (r : Registry α) (op : Op α) :
    (op.Succeeds r ∧ (op.perform r).events = op.event?.toList) ∨
      ((∃ e, (op.perform r).reply = .failed e) ∧ (op.perform r).events = []) := by
  cases op with
  | add entry position => exact events_ofChange r (by simp) fun _ => event_of_add
  | insert entry anchor position => exact events_ofChange r (by simp) fun _ => event_of_insert
  | swap id entry => exact events_ofChange r (by simp) fun _ => event_of_swap
  | remove id => exact events_ofChange r (by simp) fun _ => event_of_remove
  | clear => exact events_ofChange r (by simp) fun _ h => by rw [← Except.ok.inj h]; rfl
  | get | contains | size | ids | order => exact .inl ⟨fun e => by simp [Op.perform], rfl⟩

/-! ## What a notice tells -/

/-- An identifier stands among the others where its entry was put. -/
theorem insertIdx_names (ys zs : List α) (x : α) :
    (names (ys ++ zs)).insertIdx ys.length (Identified.id x) = names (ys ++ x :: zs) := by
  rw [← ids_ofList, ← ids_placeAt, placeAt_append, ids_ofList]

/-- Behind the anchor, too. -/
theorem insertIdx_succ_names (ys zs : List α) (x y : α) :
    (names (ys ++ y :: zs)).insertIdx (ys.length + 1) (Identified.id x) =
      names (ys ++ y :: x :: zs) := by
  have h := insertIdx_names (ys ++ [y]) zs x
  rwa [List.append_assoc, List.append_assoc, List.length_append] at h

/-- The notice of a possible change does to the identifiers what the change does to the
entries. -/
theorem replay_event {xs : List α} (hxs : Roster.Proper xs) {op : Op α} (h : op.Possible xs)
    {e : Event} (he : op.event? = some e) :
    (OpStack.Event.registry e).notice.replay (names xs) = names (op.effect xs) := by
  cases op with
  | add entry position =>
      obtain rfl := Option.some.inj he
      cases position with
      | before => rw [Op.effect_add_before]; rfl
      | after => rw [Op.effect_add_after, names_append]; rfl
  | insert entry anchor position =>
      obtain ⟨ys, x, zs, rfl, hx, hys, _, heffect⟩ :=
        Roster.effect_at (.insert entry anchor position) rfl hxs h.2
      have hindex : (names (ys ++ x :: zs)).idxOf anchor = ys.length := by
        rw [names_append, names_cons, hx, List.idxOf_append, if_neg hys, List.idxOf_cons_self]
        simp [names]
      obtain rfl := Option.some.inj he
      rw [heffect]
      cases position with
      | before =>
          show (names (ys ++ x :: zs)).insertIdx ((names (ys ++ x :: zs)).idxOf anchor) _ = _
          rw [hindex, insertIdx_names]
          simp [Op.cell, hx]
      | after =>
          show (names (ys ++ x :: zs)).insertIdx ((names (ys ++ x :: zs)).idxOf anchor + 1) _ = _
          rw [hindex, insertIdx_succ_names]
          simp [Op.cell, hx]
  | swap id entry =>
      obtain ⟨ys, old, zs, rfl, hold, hys, _, heffect⟩ :=
        Roster.effect_at (.swap id entry) rfl hxs h.1
      have hnames : names (Op.effect (.swap id entry) (ys ++ old :: zs)) =
          names ys ++ Identified.id entry :: names zs := by
        rw [heffect]
        simp [Op.cell, hold]
      obtain rfl := Option.some.inj he
      rw [hnames, names_append, names_cons, hold]
      by_cases hsame : Identified.id entry = id
      · rw [if_pos hsame, hsame]
        rfl
      · rw [if_neg hsame]
        show (names ys ++ id :: names zs).replace id (Identified.id entry) = _
        rw [List.replace_append_right hys, List.replace_cons_self]
  | remove id =>
      obtain ⟨ys, old, zs, rfl, hold, hys, _, heffect⟩ :=
        Roster.effect_at (.remove id) rfl hxs h
      obtain rfl := Option.some.inj he
      rw [heffect]
      show (names (ys ++ old :: zs)).erase id = _
      rw [names_append, names_cons, hold, List.erase_append_right _ hys, List.erase_cons_head]
      simp [Op.cell, hold]
  | clear =>
      obtain rfl := Option.some.inj he
      rw [Op.effect_clear]
      rfl
  | get | contains | size | ids | order => contradiction

/-! ## Runs -/

/-- The notices of an operation do to the identifiers what the operation does. -/
theorem replay_perform {r : Registry α} (hr : Sound r) (op : Op α) :
    (notices (op.perform r).events).foldl Notice.replay r.ids = (op.perform r).registry.ids := by
  obtain ⟨xs, rfl, hproper⟩ := hr.exists_ofList
  rcases events_perform (ofList xs) op with ⟨hsucceeds, hevents⟩ | ⟨⟨e, he⟩, hevents⟩
  · rw [hevents]
    cases he : op.event? with
    | some e =>
        have hop : op.Alters := by
          by_contra hn
          rw [Op.event?_eq_none_iff.mpr hn] at he
          contradiction
        rw [(hsucceeds.possible.perform hop hproper).2, ids_ofList, ids_ofList]
        exact replay_event hproper hsucceeds.possible he
    | none =>
        have hop := Op.event?_eq_none_iff.mp he
        rw [(agrees_perform xs op).registry, (Roster.perform_reads xs hop).2]
        rfl
  · rw [hevents, registry_of_failed he]
    rfl

/-- Notices of two lists of events. -/
theorem notices_append (es fs : List Event) : notices (es ++ fs) = notices es ++ notices fs :=
  List.map_append

/-- Events of two runs: the second starts where the first has ended. -/
theorem events_append (r : Registry α) (ops ops' : List (Op α)) :
    events r (ops ++ ops') = events r ops ++ events (run r ops) ops' := by
  induction ops generalizing r with
  | nil => rfl
  | cons op ops ih => rw [List.cons_append, events, events, ih, List.append_assoc]; rfl

/-- The notices of a run lead to the identifiers that it leaves. -/
theorem replay_run {r : Registry α} (hr : Sound r) (ops : List (Op α)) :
    (notices (events r ops)).foldl Notice.replay r.ids = (run r ops).ids := by
  induction ops generalizing r with
  | nil => rfl
  | cons op ops ih =>
      rw [events, notices_append, List.foldl_append, replay_perform hr, ih (hr.perform op)]
      rfl

/-- **A faithful journal.**  In a run from the empty registry

1. a change reports one event, of the lowest level, if it succeeds; one that fails and an
   operation that only reads report none;
2. after every operation the notices so far, which are the first ones of the run, give the
   identifiers in order. -/
theorem journal_faithful (ops : List (Op α)) :
    (∀ op : Op α,
      (op.Alters → op.Succeeds (run ∅ ops) →
        ∃ n, notices (op.perform (run ∅ ops)).events = [n] ∧ n.level = .trace) ∧
      ((∃ e, (op.perform (run ∅ ops)).reply = .failed e) →
        (op.perform (run ∅ ops)).events = []) ∧
      (¬ op.Alters → (op.perform (run ∅ ops)).events = [])) ∧
    ∀ before after, ops = before ++ after →
      notices (events ∅ before) <+: notices (events ∅ ops) ∧
      Notice.replayAll (notices (events ∅ before)) = (run ∅ before).ids := by
  refine ⟨fun op => ?_, fun before after hops => ⟨?_, replay_run sound_empty before⟩⟩
  · rcases events_perform (run ∅ ops) op with ⟨hsucceeds, hevents⟩ | ⟨⟨e, he⟩, hevents⟩
    · refine ⟨fun hop _ => ?_, fun ⟨e, he⟩ => absurd he (hsucceeds e), fun hop => ?_⟩
      · cases hevent : op.event? with
        | some e => exact ⟨_, by rw [hevents, hevent]; rfl, rfl⟩
        | none => exact absurd hop (Op.event?_eq_none_iff.mp hevent)
      · rw [hevents, Op.event?_eq_none_iff.mpr hop]
        rfl
    · exact ⟨fun _ hsucceeds => absurd he (hsucceeds e), fun _ => hevents, fun _ => hevents⟩
  · rw [hops, events_append, notices_append]
    exact List.prefix_append _ _

end Registry

end OpStack
