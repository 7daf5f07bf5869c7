import OpStack.Proofs.Likeness
import OpStack.Invocation

/-!
# OpStack.Proofs.Telling

Runs that differ in what their observers are told and in nothing else.  Behaviours see
neither trace nor spans; all they can do is to tell a remark, inside the spans that are
active.  So any relation of two tellings that bears this (`Accord`) gives a `Likeness`, which
is `Likeness.ofTold`; what is left to show is that it goes into frames and out of them.

* `Since`: what both were told on the way is related, for example record by record (`Turned`).
* `agree_invocation`, `agree_eachAfresh`: invocations side by side.
-/

namespace OpStack

/-! ## What observers are told -/

/-- What the observer of a run was told, and the spans that are active. -/
structure Telling where
  spans : List Span
  trace : List Record

/-- The observer is told a remark, inside the active spans. -/
def Telling.remark (x : Telling) (r : Remark) : Telling :=
  { x with trace := x.trace ++ [.event (.remark r) x.spans] }

/-- How what the observers of two runs were told is related, by the frames of the first run that
are open.  A remark that both of them are told leaves it so. -/
structure Accord where
  Rel : List Frame → Telling → Telling → Prop
  remark {place : List Frame} {x x' : Telling} (r : Remark) :
    Rel place x x' → Rel place (x.remark r) (x'.remark r)

namespace Likeness

/-! ### Records that are told on the way -/

/-- Since the first observer had been told `past` and the second one `past'`, they were told
records that are related.  The spans that are active are `outer` for the first and `outer'`
for the second, and then those of the open frames. -/
structure Since (told : List Record → List Record → Prop) (outer outer' : List Span)
    (past past' : List Record) (place : List Frame) (x x' : Telling) : Prop where
  spans : x.spans = outer ++ Frame.spans place
  spans' : x'.spans = outer' ++ Frame.spans place
  trace : ∃ rs rs', x.trace = past ++ rs ∧ x'.trace = past' ++ rs' ∧ told rs rs'

section Since

variable {told : List Record → List Record → Prop} {outer outer' : List Span}
  {past past' : List Record}

/-- In the beginning nothing was told. -/
theorem Since.nil (hnil : told [] []) :
    Since told outer outer' past past' [] ⟨outer, past⟩ ⟨outer', past'⟩ :=
  ⟨(List.append_nil _).symm, (List.append_nil _).symm, [], [], (List.append_nil _).symm,
    (List.append_nil _).symm, hnil⟩

/-- Records are related one after the other, and so are the two records of a remark. -/
structure Piecewise (told : List Record → List Record → Prop) (outer outer' : List Span) :
    Prop where
  append {rs rs' qs qs' : List Record} :
    told rs rs' → told qs qs' → told (rs ++ qs) (rs' ++ qs')
  remark (r : Remark) (ws : List Span) :
    told [.event (.remark r) (outer ++ ws)] [.event (.remark r) (outer' ++ ws)]

/-- What was told since two pasts, if it is related one record after the other. -/
def since (h : Piecewise told outer outer') (past past' : List Record) : Accord where
  Rel := Since told outer outer' past past'
  remark {place x x'} r hx := by
    obtain ⟨hspans, hspans', rs, rs', htrace, htrace', htold⟩ := hx
    refine ⟨hspans, hspans', _, _, ?_, ?_, h.append htold (h.remark r (Frame.spans place))⟩
    · rw [Telling.remark, htrace, hspans, List.append_assoc]
    · rw [Telling.remark, htrace', hspans', List.append_assoc]

end Since

/-- The second observer is told the records of the first, each turned. -/
def Turned (turn : Record → Record) (rs rs' : List Record) : Prop := rs' = rs.map turn

/-- Turned one after the other. -/
theorem Turned.append {turn : Record → Record} {rs rs' qs qs' : List Record}
    (hrs : Turned turn rs rs') (hqs : Turned turn qs qs') :
    Turned turn (rs ++ qs) (rs' ++ qs') := by
  rw [Turned, hrs, hqs, List.map_append]

/-- Turning is done record by record, so what is left is how remarks are turned. -/
theorem piecewise_turned {turn : Record → Record} {outer outer' : List Span}
    (hremark : ∀ r ws, turn (.event (.remark r) (outer ++ ws)) = .event (.remark r) (outer' ++ ws)) :
    Piecewise (Turned turn) outer outer' where
  append := Turned.append
  remark r ws := by rw [Turned, List.map_singleton, hremark]

end Likeness

/-! ## Runs and their observers -/

variable [Payloads] {I O α : Type}

def World.telling (w : World) : Telling := ⟨w.spans, w.trace⟩

theorem World.telling_offer (w : World) (c : Option Nat) : (w.offer c).telling = w.telling := by
  cases c <;> rfl

/-- An effect sees neither trace nor spans. -/
theorem Effect.agree_apply (e : Effect) {w w' : World} (h : w.Quiet w') :
    Agree World.Quiet (e.apply w) (e.apply w') := by
  obtain ⟨⟨memory, hand⟩, journal, trace, spans, drawn⟩ := w
  obtain ⟨⟨memory', hand'⟩, journal', trace', spans', drawn'⟩ := w'
  obtain ⟨⟨rfl, rfl, rfl⟩, rfl⟩ := h
  cases e <;> exact ⟨rfl, ⟨rfl, rfl, rfl⟩, rfl⟩

/-- An effect tells the observer nothing but remarks. -/
theorem Effect.told_apply (a : Accord) (e : Effect) {place : List Frame} {w w' : World}
    (h : a.Rel place w.telling w'.telling) :
    a.Rel place (e.apply w).2.telling (e.apply w').2.telling := by
  cases e with
  | remark r => exact a.remark r h
  | _ => exact h

theorem World.Quiet.offer {w w' : World} (c : Option Nat) (h : w.Quiet w') :
    (w.offer c).Quiet (w'.offer c) := by
  cases c with
  | none => exact h
  | some i => exact ⟨⟨h.memory, h.journal, h.drawn⟩, rfl⟩

namespace Frame

/-- The key of the request that is made on entering. -/
def key? : Frame → Option Nat
  | stack .. => none
  | step _ _ _ key => key

/-- What is told on entering inside the spans. -/
def opening (f : Frame) (outer : List Span) : List Record :=
  f.span?.toList.map (.opened · outer) ++ f.started (outer ++ f.span?.toList)

/-- What is told on leaving to the spans. -/
def closing (f : Frame) (fault : Option Fault) (outer : List Span) : List Record :=
  f.failed fault (outer ++ f.span?.toList) ++ f.span?.toList.map (.closed · outer)

/-- On entering a frame the observer is told of its opening. -/
theorem telling_enter (f : Frame) (w : World) :
    (f.enter w).telling = ⟨w.spans ++ f.span?.toList, w.trace ++ f.opening w.spans⟩ := by
  rw [World.telling, spans_enter, trace_enter]
  rfl

/-- On leaving a frame the observer is told of its closing. -/
theorem telling_leave {f : Frame} {w : World} {outer : List Span} (fault : Option Fault)
    (hw : w.spans = outer ++ f.span?.toList) :
    (f.leave fault w).telling = ⟨outer, w.trace ++ f.closing fault outer⟩ := by
  rw [World.telling, spans_leave fault hw, trace_leave fault hw]
  rfl

/-- Apart from what is told, entering a frame makes its request. -/
theorem quiet_enter (f : Frame) (w : World) : (f.key?.elim w w.drawUnder).Quiet (f.enter w) := by
  cases f with
  | stack id instrument => cases instrument <;> exact ⟨⟨rfl, rfl, rfl⟩, rfl⟩
  | step id instrument members key =>
      cases key <;> cases instrument <;> exact ⟨⟨rfl, rfl, rfl⟩, rfl⟩

/-- Frames that draw from the same source are entered quietly in both runs. -/
theorem quiet_enter_enter {f f' : Frame} (hkey : f'.key? = f.key?) {w w' : World}
    (h : w.Quiet w') : (f.enter w).Quiet (f'.enter w') := by
  have hdrawn : (f.key?.elim w w.drawUnder).Quiet (f'.key?.elim w' w'.drawUnder) := by
    rw [hkey]
    cases f.key? with
    | none => exact h
    | some key =>
        refine ⟨⟨h.memory, h.journal, ?_⟩, h.hand⟩
        show (w'.drawUnder key).drawn = (w.drawUnder key).drawn
        rw [World.drawUnder, World.drawUnder, h.drawn]
  exact ((f.quiet_enter w).symm.trans hdrawn).trans (f'.quiet_enter w')

/-- Apart from what is told, leaving a frame does nothing. -/
theorem quiet_leave_leave (f f' : Frame) (fault : Option Fault) {w w' : World} (h : w.Quiet w') :
    (f.leave fault w).Quiet (f'.leave fault w') :=
  ((f.quiet_leave fault w).symm.trans h).trans (f'.quiet_leave fault w')

end Frame

namespace Likeness

variable {told : Accord}

/-- The likeness of runs that differ in what is told, and in nothing else. -/
def ofTold (told : Accord) : Likeness where
  Rel place w w' := w.Quiet w' ∧ told.Rel place w.telling w'.telling
  Allows _ := True
  drawn h := h.1.drawn
  hand h := h.1.hand
  offer {place w w'} c h := by
    rw [w.telling_offer, w'.telling_offer]
    exact ⟨h.1.offer c, h.2⟩
  apply e _ h := ⟨(e.agree_apply h.1).same, (e.agree_apply h.1).rel, e.told_apply told h.2⟩

/-- For the likeness of tellings, what is left is how frames are told. -/
theorem frames_ofTold {f f' : Frame} (hkey : f'.key? = f.key?)
    (henter : ∀ {place : List Frame} {w w' : World}, told.Rel place w.telling w'.telling →
      told.Rel (place ++ [f]) (f.enter w).telling (f'.enter w').telling)
    (hleave : ∀ {place : List Frame} {w w' : World} (fault : Option Fault),
      told.Rel (place ++ [f]) w.telling w'.telling →
      told.Rel place (f.leave fault w).telling (f'.leave fault w').telling) :
    (ofTold told).Frames f f' where
  enter h := ⟨Frame.quiet_enter_enter hkey h.1, henter h.2⟩
  leave fault h := ⟨Frame.quiet_leave_leave f f' fault h.1, hleave fault h.2⟩

/-- Behaviours see nothing of what is told. -/
theorem does_ofTold (b : Behaviour I O α) : b.Does (ofTold told).Allows :=
  b.does_of_forall fun _ => trivial

/-- So it is with middleware. -/
theorem does_middleware (m : Middleware I O) : m.Does (ofTold told).Allows :=
  fun input => does_ofTold (m.body input)

theorem does_terminal (t : Terminal) : t.Does (ofTold told).Allows :=
  fun v => does_ofTold (t v)

/-- So it is with every kind of layer. -/
theorem all_ofTold (l : Layer) : l.All (Middleware.Does (ofTold told).Allows) := by
  cases l with
  | plain m => exact does_middleware m
  | step k s => exact fun m _ => does_middleware m
  | stack s => exact fun k m _ => does_middleware m

section Chain

variable (hframes : ∀ f, (ofTold told).Frames f f)
include hframes

/-- Whatever its middleware do, a chain keeps handlers alike that differ in what is told. -/
theorem wraps_ofTold (layers : List Layer) :
    (ofTold told).Wraps (chain · layers) (chain · layers) :=
  wraps_layers hframes fun l _ => all_ofTold l

/-- A chain in two runs, which differ in what is told. -/
theorem alike_ofTold (t : Terminal) (layers : List Layer) :
    (ofTold told).Alike (chain t.handler layers) (chain t.handler layers) :=
  wraps_ofTold hframes layers (alike_terminal (does_terminal t))

end Chain

section Since

variable {told : List Record → List Record → Prop} {outer outer' : List Span}
  {past past' : List Record}

/-- What was told goes on into the frames and out of them, if their own records are related. -/
theorem frames_since {h : Piecewise told outer outer'} {f f' : Frame} (hkey : f'.key? = f.key?)
    (hspan : f'.span? = f.span?)
    (hopening : ∀ ws, told (f.opening (outer ++ ws)) (f'.opening (outer' ++ ws)))
    (hclosing : ∀ fault ws,
      told (f.closing fault (outer ++ ws)) (f'.closing fault (outer' ++ ws))) :
    (ofTold (since h past past')).Frames f f' := by
  have hspans : ∀ (place : List Frame) (base : List Span),
      base ++ Frame.spans (place ++ [f]) = base ++ Frame.spans place ++ f.span?.toList := by
    intro place base
    rw [Frame.spans_append, Frame.spans_singleton, List.append_assoc]
  refine frames_ofTold hkey ?_ ?_
  · rintro place w w' ⟨hw, hw', rs, rs', htrace, htrace', htold⟩
    dsimp only [World.telling] at hw hw' htrace htrace'
    rw [f.telling_enter, f'.telling_enter, hspan, hw, hw', htrace, htrace']
    exact ⟨(hspans place outer).symm, (hspans place outer').symm, _, _, List.append_assoc ..,
      List.append_assoc .., h.append htold (hopening (Frame.spans place))⟩
  · rintro place w w' fault ⟨hw, hw', rs, rs', htrace, htrace', htold⟩
    dsimp only [World.telling] at hw hw' htrace htrace'
    rw [hspans] at hw hw'
    rw [← hspan] at hw'
    rw [Frame.telling_leave fault hw, Frame.telling_leave fault hw', htrace, htrace']
    exact ⟨rfl, rfl, _, _, List.append_assoc .., List.append_assoc ..,
      h.append htold (hclosing fault (Frame.spans place))⟩

end Since

end Likeness

/-! ## Invocations -/

variable {told : Accord} {handler handler' : Handler Payload Payload}

/-- Nothing is left of the earlier contexts and log when an invocation begins. -/
theorem agree_begin (s : Start) (v : Payload) {w w' : World} (hdrawn : w'.drawn = w.drawn)
    (htold : told.Rel [] w.telling w'.telling) :
    Agree ((Likeness.ofTold told).Rel []) (v, w.begin s) (v, w'.begin s) :=
  ⟨rfl, ⟨⟨rfl, rfl, hdrawn⟩, rfl⟩, htold⟩

/-- Two invocations that differ in what is told have the same outcome. -/
theorem agree_invocation (h : (Likeness.ofTold told).Alike handler handler') (s : Start)
    (v : Payload) {w w' : World} (hdrawn : w'.drawn = w.drawn)
    (htold : told.Rel [] w.telling w'.telling) :
    Agree ((Likeness.ofTold told).Rel []) (invocation handler s v w)
      (invocation handler' s v w') := by
  have hanswered := h (agree_begin s v hdrawn htold)
  exact ⟨congrArg₂ Outcome.mk hanswered.same hanswered.rel.1.journal, hanswered.rel⟩

/-- So have any number of them. -/
theorem agree_eachAfresh (h : (Likeness.ofTold told).Alike handler handler') (s : Start)
    (vs : List Payload) {w w' : World} (hw : (Likeness.ofTold told).Rel [] w w') :
    Agree ((Likeness.ofTold told).Rel []) (eachAfresh handler s vs w)
      (eachAfresh handler' s vs w') := by
  induction vs generalizing w w' with
  | nil => exact ⟨rfl, hw⟩
  | cons v vs ih =>
      have hone := agree_invocation h s v hw.1.drawn hw.2
      have hothers := ih hone.rel
      exact ⟨congrArg₂ List.cons hone.same hothers.same, hothers.rel⟩

end OpStack
