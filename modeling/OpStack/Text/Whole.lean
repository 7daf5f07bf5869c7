/-!
# OpStack.Text.Whole

Whole numbers read from decimal digits, after an optional plus sign and below a
bound.  The text is read from the left: a wrong character counts only if the
digits before it have not passed the bound already.
-/

namespace OpStack.Text

/-- Why a text is no whole number below the bound. -/
inductive WholeFault where
  | empty
  | invalidDigit
  | tooLarge
  deriving DecidableEq, Repr

/-- The text of a fault. -/
def WholeFault.message : WholeFault → String
  | empty => "cannot parse integer from empty string"
  | invalidDigit => "invalid digit found in string"
  | tooLarge => "number too large to fit in target type"

/-- The value of a decimal digit. -/
def digit? (c : Char) : Option Nat :=
  if '0' ≤ c && c ≤ '9' then some (c.toNat - '0'.toNat) else none

/-- Goes on reading digits behind those that made `n`. -/
def readDigits (bound n : Nat) : List Char → Except WholeFault Nat
  | [] => .ok n
  | c :: cs =>
    match digit? c with
    | none => .error .invalidDigit
    | some d =>
      if 10 * n + d < bound then readDigits bound (10 * n + d) cs else .error .tooLarge

/-- The whole number below `bound` that the text spells. -/
def readWhole (bound : Nat) : List Char → Except WholeFault Nat
  | [] => .error .empty
  | ['+'] => .error .invalidDigit
  | '+' :: cs => readDigits bound 0 cs
  | cs => readDigits bound 0 cs

end OpStack.Text
