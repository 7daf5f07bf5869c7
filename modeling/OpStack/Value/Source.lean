import OpStack.Value.Basic
import OpStack.World

/-!
# OpStack.Value.Source

Requests that are numbers.
-/

namespace OpStack

/-- A source that counts its requests from zero. -/
def RequestSource.counting (key : Nat) : RequestSource :=
  ⟨key, fun n => Value.usize (UInt64.ofNat n)⟩

end OpStack
