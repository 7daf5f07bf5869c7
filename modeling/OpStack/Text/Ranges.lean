/-!
# OpStack.Text.Ranges

Sets of characters, given by the closed ranges of their code points.
-/

namespace OpStack.Text

/-- A set of characters, as closed ranges of code points. -/
abbrev Ranges := List (Nat × Nat)

/-- A character is in the set when one of the ranges holds its code point. -/
def Ranges.holds (rs : Ranges) (c : Char) : Bool :=
  rs.any fun r => r.1 ≤ c.toNat && c.toNat ≤ r.2

end OpStack.Text
