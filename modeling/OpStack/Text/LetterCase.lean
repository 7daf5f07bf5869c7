import OpStack.Text.CaseTable

/-!
# OpStack.Text.LetterCase

Upper and lower case of a text, character by character, with the mappings that
Unicode gives without regard to language or position.  A text may grow: `ß`
becomes `SS`.
-/

namespace OpStack.Text

/-- The run reaches the code point `n`. -/
def CaseRun.reaches (r : CaseRun) (n : Nat) : Bool :=
  r.first ≤ n && n ≤ r.last && (n - r.first) % r.step == 0

/-- The mapping of one character: its entry among the specials, else the run that
reaches it, else itself. -/
def mapCase (specials : List (Nat × List Nat)) (runs : List CaseRun) (c : Char) : List Char :=
  match specials.lookup c.toNat with
  | some ns => ns.map Char.ofNat
  | none =>
    match runs.find? (·.reaches c.toNat) with
    | some r => [Char.ofNat (c.toNat + r.shift).toNat]
    | none => [c]

/-- The upper case of one character. -/
def upperChar : Char → List Char := mapCase upperSpecials upperRuns

/-- The lower case of one character. -/
def lowerChar : Char → List Char := mapCase lowerSpecials lowerRuns

/-- The text in upper case. -/
def upper (s : String) : String := String.ofList (s.toList.flatMap upperChar)

/-- The text in lower case. -/
def lower (s : String) : String := String.ofList (s.toList.flatMap lowerChar)

end OpStack.Text
