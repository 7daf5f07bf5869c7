import OpStack.Text.Outline

/-!
# OpStack.Fault

What can go wrong.  An `Error` is something the stack detects itself: a change of
a registry that would break its identifiers, or a payload of another type than
asked for.  A `Fault` is what a chain of handlers fails with: such an error, or
one that a middleware or a handler raised on its own account.
-/

namespace OpStack

/-- The failures that the stack itself detects. -/
inductive Error where
  /-- An entry came without an identifier. -/
  | emptyId
  /-- The identifier belongs to another entry. -/
  | duplicateId (id : String)
  /-- No entry stands where the new one should be placed. -/
  | anchorNotFound (id : String)
  /-- No entry has the identifier. -/
  | notFound (id : String)
  /-- A payload is not of the type asked for; both types by name. -/
  | typeMismatch (expected found : String)
  deriving DecidableEq, Repr

namespace Error

/-- The text shown to the caller. -/
def message : Error → String
  | emptyId => "middleware identifier must not be empty"
  | duplicateId id => "duplicate middleware id: " ++ id
  | anchorNotFound id => "anchor middleware not found: " ++ id
  | notFound id => "middleware not found: " ++ id
  | typeMismatch expected found => "type mismatch: expected " ++ expected ++ ", found " ++ found

open Text.Outline in
/-- The developer's text. -/
def outline : Error → Text.Outline
  | emptyId => word "EmptyId"
  | duplicateId id => record "DuplicateId" [field "id" (quoted id)]
  | anchorNotFound id => record "AnchorNotFound" [field "id" (quoted id)]
  | notFound id => record "NotFound" [field "id" (quoted id)]
  | typeMismatch expected found =>
    record "TypeMismatch" [field "expected" (quoted expected), field "found" (quoted found)]

end Error

/-- What an invocation fails with. -/
inductive Fault where
  /-- A failure that the stack detected. -/
  | library (e : Error)
  /-- A failure raised by a middleware or a handler. -/
  | raised (kind text : String)
  deriving DecidableEq, Repr

/-- The name of the kind of failure. -/
def Fault.kind : Fault → String
  | library .emptyId => "EmptyId"
  | library (.duplicateId _) => "DuplicateId"
  | library (.anchorNotFound _) => "AnchorNotFound"
  | library (.notFound _) => "NotFound"
  | library (.typeMismatch _ _) => "TypeMismatch"
  | raised kind _ => kind

/-- The text shown to the caller. -/
def Fault.message : Fault → String
  | library e => e.message
  | raised _ text => text

end OpStack
