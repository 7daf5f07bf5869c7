import OpStack.Document.Json

/-!
# OpStack.Proofs.Document.Grammar

What a JSON text says: its value, and which texts say it.

A value is a `Tree`.  It is written as a row of lexemes (`Tree.lexemes`): the marks of lists and
tables, and the words, numbers and texts between them.  A lexeme may be written in several ways
(`Lexeme.Spelled`), above all a text, whose characters may stand for themselves or be escaped; and
blanks may be anywhere around lexemes (`Laid`).  None of this looks at how texts are read.
-/

namespace OpStack.Document.Json

/-! ## Values -/

/-- A JSON value.  A number is known by its numeral; a table has members in an order, and names in
it may be repeated. -/
inductive Tree where
  | null
  | flag (b : Bool)
  | number (numeral : List Char)
  | text (s : String)
  | list (items : List Tree)
  | table (members : List (String × Tree))

/-- What a JSON text is made of. -/
inductive Lexeme where
  /-- One of the marks `[`, `]`, `{`, `}`, `,` and `:`. -/
  | mark (c : Char)
  | null
  | flag (b : Bool)
  | number (numeral : List Char)
  | text (s : String)

namespace Tree

mutual

/-- The lexemes of a value, in order. -/
def lexemes : Tree → List Lexeme
  | null => [.null]
  | flag b => [.flag b]
  | number numeral => [.number numeral]
  | text s => [.text s]
  | list items => .mark '[' :: (listed items ++ [.mark ']'])
  | table members => .mark '{' :: (entries members ++ [.mark '}'])

/-- The items of a list, with commas between them. -/
def listed : List Tree → List Lexeme
  | [] => []
  | t :: ts => t.lexemes ++ listedRest ts

/-- Further items of a list, each behind a comma. -/
def listedRest : List Tree → List Lexeme
  | [] => []
  | t :: ts => .mark ',' :: (t.lexemes ++ listedRest ts)

def entries : List (String × Tree) → List Lexeme
  | [] => []
  | (name, t) :: ms => .text name :: .mark ':' :: (t.lexemes ++ entriesRest ms)

def entriesRest : List (String × Tree) → List Lexeme
  | [] => []
  | (name, t) :: ms => .mark ',' :: .text name :: .mark ':' :: (t.lexemes ++ entriesRest ms)

end

end Tree

/-! ## Numerals -/

def Digits (ds : List Char) : Prop := ds ≠ [] ∧ ∀ d ∈ ds, isDigit d = true

/-- Digits before the point: a zero stands alone. -/
def WholePart (ds : List Char) : Prop := Digits ds ∧ (ds.head? = some '0' → ds = ['0'])

/-- A point and digits, or nothing. -/
inductive FractionPart : List Char → Prop
  | none : FractionPart []
  | some {ds : List Char} (h : Digits ds) : FractionPart ('.' :: ds)

/-- An exponent with or without a sign, or nothing. -/
inductive ExponentPart : List Char → Prop
  | none : ExponentPart []
  | plain {e : Char} {ds : List Char} (he : e = 'e' ∨ e = 'E') (h : Digits ds) :
    ExponentPart (e :: ds)
  | signed {e sign : Char} {ds : List Char} (he : e = 'e' ∨ e = 'E')
    (hsign : sign = '+' ∨ sign = '-') (h : Digits ds) : ExponentPart (e :: sign :: ds)

/-- The text of a number. -/
inductive Numeral : List Char → Prop
  | positive {whole fraction exponent : List Char} (hw : WholePart whole)
    (hf : FractionPart fraction) (he : ExponentPart exponent) :
    Numeral (whole ++ (fraction ++ exponent))
  | negative {whole fraction exponent : List Char} (hw : WholePart whole)
    (hf : FractionPart fraction) (he : ExponentPart exponent) :
    Numeral ('-' :: (whole ++ (fraction ++ exponent)))

/-! ## Texts -/

def HexDigit (d : Char) (n : Nat) : Prop :=
  "0123456789abcdef".toList[n]? = some d ∨ "0123456789ABCDEF".toList[n]? = some d

/-- Four hexadecimal digits of the number. -/
inductive Hex4 : List Char → Nat → Prop
  | mk {a b c d : Char} {w x y z : Nat} (ha : HexDigit a w) (hb : HexDigit b x)
    (hc : HexDigit c y) (hd : HexDigit d z) :
    Hex4 [a, b, c, d] (w * 0x1000 + x * 0x100 + y * 0x10 + z)

/-- What stands behind a backslash, and the character it stands for. -/
def shortEscapes : List (Char × Char) :=
  [('"', '"'), ('\\', '\\'), ('/', '/'), ('b', '\x08'), ('f', '\x0c'), ('n', '\n'), ('r', '\r'),
   ('t', '\t')]

/-- A character is written as it is, by a short escape, or by its code in four hexadecimal digits;
one beyond these by its two surrogates. -/
inductive Spells (c : Char) : List Char → Prop
  | plain (hquote : c ≠ '"') (hslash : c ≠ '\\') (hcontrol : ¬ c < ' ') : Spells c [c]
  | short {e : Char} (h : (e, c) ∈ shortEscapes) : Spells c ['\\', e]
  | code {ds : List Char} (h : Hex4 ds c.toNat) : Spells c ('\\' :: 'u' :: ds)
  | surrogates {high low : List Char} {m n : Nat} (hc : c.toNat = 0x10000 + m * 0x400 + n)
    (hn : n < 0x400) (hhigh : Hex4 high (0xd800 + m)) (hlow : Hex4 low (0xdc00 + n)) :
    Spells c ('\\' :: 'u' :: (high ++ '\\' :: 'u' :: low))

/-- The characters of a text one after the other. -/
inductive SpellsAll : List Char → List Char → Prop
  | nil : SpellsAll [] []
  | cons {c : Char} {cs w ws : List Char} (hc : Spells c w) (hcs : SpellsAll cs ws) :
    SpellsAll (c :: cs) (w ++ ws)

/-! ## Written values -/

inductive Lexeme.Spelled : Lexeme → List Char → Prop
  | mark (c : Char) : Spelled (.mark c) [c]
  | null : Spelled .null "null".toList
  | flag (b : Bool) : Spelled (.flag b) (if b then "true" else "false").toList
  | number {numeral : List Char} (h : Numeral numeral) : Spelled (.number numeral) numeral
  | text {s : String} {ws : List Char} (h : SpellsAll s.toList ws) :
    Spelled (.text s) ('"' :: (ws ++ ['"']))

/-- The lexemes are written in this order, with blanks around them as one likes. -/
inductive Laid : List Lexeme → List Char → Prop
  | nil : Laid [] []
  | blank {ls : List Lexeme} {c : Char} {cs : List Char} (hc : c ∈ [' ', '\n', '\t', '\r'])
    (h : Laid ls cs) : Laid ls (c :: cs)
  | lexeme {l : Lexeme} {ls : List Lexeme} {w cs : List Char} (hl : l.Spelled w) (h : Laid ls cs) :
    Laid (l :: ls) (w ++ cs)

/-- Lexemes laid out one after the other. -/
theorem Laid.append {ls ms : List Lexeme} {cs ds : List Char} (h : Laid ls cs) (hm : Laid ms ds) :
    Laid (ls ++ ms) (cs ++ ds) := by
  induction h with
  | nil => exact hm
  | blank hc _ ih => exact .blank hc ih
  | lexeme hl _ ih =>
      rw [List.cons_append, List.append_assoc]
      exact .lexeme hl ih

theorem Laid.mark (c : Char) {ls : List Lexeme} {cs : List Char} (h : Laid ls cs) :
    Laid (.mark c :: ls) (c :: cs) :=
  .lexeme (.mark c) h

/-- A lexeme laid out on its own, without blanks. -/
theorem Laid.of_spelled {l : Lexeme} {w : List Char} (h : l.Spelled w) : Laid [l] w := by
  simpa using Laid.lexeme h .nil

/-- The text says the value. -/
def Tree.Written (t : Tree) (text : String) : Prop := Laid t.lexemes text.toList

end OpStack.Document.Json
