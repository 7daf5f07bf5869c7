import OpStack.Fault

/-!
# OpStack.Payload.Basic

Payloads.  The stack moves them between steps without looking inside; whoever wants the content
names the type it expects and gets it only if the payload is of exactly that type.

Which types there are is left open: a program brings its own (`Payloads`).  All that is known of
a payload is that it is a type with a content of this type, in `Payload.of` one way and in
`Payload.kind` and `Payload.content` the other.  A content may itself be a payload, so payloads
cannot simply be such pairs.
-/

namespace OpStack

/-- The types that payloads can have, all distinct, and the payloads themselves. -/
class Payloads where
  Kind : Type
  decidableEq : DecidableEq Kind
  /-- The name of the type in messages. -/
  typeName : Kind → String
  /-- What a payload of the type holds. -/
  Content : Kind → Type
  Payload : Type
  of : (k : Kind) → Content k → Payload
  typed : Payload → (k : Kind) × Content k
  typed_of (k : Kind) (x : Content k) : typed (of k x) = ⟨k, x⟩
  of_typed (p : Payload) : of (typed p).1 (typed p).2 = p

variable [Payloads]

/-- A payload of one of the types. -/
abbrev Payload : Type := Payloads.Payload

/-- The types that a payload can have. -/
abbrev Payload.Kind : Type := Payloads.Kind

instance : DecidableEq Payload.Kind := Payloads.decidableEq

namespace Payload

abbrev Kind.Content (k : Kind) : Type := Payloads.Content k

abbrev Kind.typeName (k : Kind) : String := Payloads.typeName k

/-- The payload of type `k` with the given content. -/
def of (k : Kind) (x : k.Content) : Payload := Payloads.of k x

/-- The type of the payload. -/
def kind (p : Payload) : Kind := (Payloads.typed p).1

/-- The content of the payload. -/
def content (p : Payload) : p.kind.Content := (Payloads.typed p).2

/-- The content, if the payload is of type `k`. -/
def as? (k : Kind) (p : Payload) : Option k.Content :=
  if h : p.kind = k then some (h ▸ p.content) else none

/-- A payload is of the type it was made for. -/
@[simp] theorem kind_of (k : Kind) (x : k.Content) : (of k x).kind = k := by
  rw [kind, of, Payloads.typed_of]

/-- A payload is made of its content. -/
@[simp] theorem of_content (p : Payload) : of p.kind p.content = p := Payloads.of_typed p

/-- A payload can be read as what it is. -/
@[simp] theorem as?_kind (p : Payload) : p.as? p.kind = some p.content := dif_pos rfl

/-- The content of a payload is what it was made of. -/
@[simp] theorem as?_of (k : Kind) (x : k.Content) : (of k x).as? k = some x := by
  have hread : ∀ t : (k : Kind) × k.Content, t = ⟨k, x⟩ →
      (if h : t.1 = k then some (h ▸ t.2) else none) = some x := by
    rintro t rfl
    exact dif_pos rfl
  exact hread _ (Payloads.typed_of k x)

/-- Content and type determine the payload. -/
theorem of_as? {k : Kind} {p : Payload} {x : k.Content} (h : p.as? k = some x) : of k x = p := by
  by_cases hk : p.kind = k
  · subst hk
    rw [as?_kind] at h
    rw [← Option.some.inj h, of_content]
  · rw [as?, dif_neg hk] at h
    contradiction

/-- A payload has content of type `k` exactly when `k` is its type. -/
theorem isSome_as? (k : Kind) (p : Payload) : (p.as? k).isSome = decide (p.kind = k) := by
  by_cases hk : p.kind = k
  · simp [as?, hk]
  · simp [as?, hk]

/-- The name of the type of the payload. -/
def typeName (p : Payload) : String := p.kind.typeName

/-- The content as type `k`, or the two types that differ. -/
def narrow (k : Kind) (p : Payload) : Except Error k.Content :=
  match p.as? k with
  | some x => .ok x
  | none => .error (.typeMismatch k.typeName p.typeName)

/-- The developer's text shows the type and hides the content. -/
def outline (p : Payload) : Text.Outline := .wrap "Value" (.quoted p.typeName)

end Payload

end OpStack
