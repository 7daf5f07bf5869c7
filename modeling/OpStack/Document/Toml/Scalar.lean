import OpStack.Document.Json

/-!
# OpStack.Document.Toml.Scalar

The words of TOML that are values: truth values, integers, floats, dates and times.
A word is taken as a whole; one that is no value makes the document wrong.
-/

namespace OpStack.Document.Toml

open Json (isDigit digitValue hexValue?)

/-- The characters of a word. -/
def isWordChar (c : Char) : Bool :=
  c.isAlphanum || c = '_' || c = '-' || c = '+' || c = '.' || c = ':'

/-! ## Digits -/

/-- Digits with single underscores between them, without those. -/
def spaced? (ok : Char → Bool) : List Char → Option (List Char)
  | [] => none
  | [c] => if ok c then some [c] else none
  | c :: '_' :: d :: cs =>
    if ok c && ok d then (spaced? ok (d :: cs)).map (c :: ·) else none
  | c :: d :: cs => if ok c then (spaced? ok (d :: cs)).map (c :: ·) else none

/-- The number of the digits in the given base. -/
def inBase (base : Nat) (ds : List Char) : Nat :=
  ds.foldl (fun n c => base * n + (hexValue? c).getD 0) 0

/-- The digits of a whole number without needless zeros in front. -/
def whole? (cs : List Char) : Option (List Char) := do
  let ds ← spaced? isDigit cs
  if ds.head? = some '0' && 1 < ds.length then none else some ds

/-- The sign in front of a word. -/
def signed (cs : List Char) : Bool × List Char :=
  match cs with
  | '+' :: cs => (false, cs)
  | '-' :: cs => (true, cs)
  | cs => (false, cs)

/-! ## Integers -/

/-- An integer of 64 bits: decimal with a sign, or in another base without one. -/
def integer? (cs : List Char) : Option Int := do
  match cs with
  | '0' :: 'x' :: cs => limited (inBase 16 (← spaced? (fun c => (hexValue? c).isSome) cs))
  | '0' :: 'o' :: cs => limited (inBase 8 (← spaced? (fun c => '0' ≤ c && c ≤ '7') cs))
  | '0' :: 'b' :: cs => limited (inBase 2 (← spaced? (fun c => c = '0' || c = '1') cs))
  | cs =>
    let (negative, cs) := signed cs
    let n := inBase 10 (← whole? cs)
    if negative then (if n ≤ UInt64.size / 2 then some (-n) else none) else limited n
where
  /-- The number, if it is one of 64 bits. -/
  limited (n : Nat) : Option Int := if n < UInt64.size / 2 then some n else none

/-! ## Floats -/

/-- The parts of `cs` before and behind the first character that passes. -/
def breakAt (p : Char → Bool) (cs : List Char) : List Char × Option (List Char) :=
  match cs.dropWhile (!p ·) with
  | [] => (cs, none)
  | _ :: rest => (cs.takeWhile (!p ·), some rest)

/-- The float nearest to `digits * 10 ^ exponent`. -/
def nearest (digits : Nat) (exponent : Int) : Float :=
  let size := (toString digits).length + exponent
  if digits = 0 || size < -400 then 0.0
  else if 400 < size then 1.0 / 0.0
  else if 0 ≤ exponent then Float.ofScientific digits false exponent.natAbs
  else Float.ofScientific digits true exponent.natAbs

/-- A number with a fraction or an exponent. -/
def fractional? (cs : List Char) : Option Float := do
  let (mantissa, exponent) := breakAt (fun c => c = 'e' || c = 'E') cs
  let (front, back) := breakAt (· = '.') mantissa
  let ws ← whole? front
  let fs ← match back with
    | some fs => spaced? isDigit fs
    | none => pure []
  let e ← match exponent with
    | some es => do
      let (negative, es) := signed es
      let n := inBase 10 (← spaced? isDigit es)
      pure (if negative then -(n : Int) else n)
    | none => pure 0
  if back.isNone && exponent.isNone then none
  else some (nearest (inBase 10 (ws ++ fs)) (e - fs.length))

/-- A float by its text in messages.  A positive number beyond all floats is none. -/
def float? (cs : List Char) : Option String := do
  let (negative, cs) := signed cs
  let x ← if cs = "inf".toList then pure (1.0 / 0.0)
    else if cs = "nan".toList then pure (0.0 / 0.0)
    else do
      let x ← fractional? cs
      if x.isInf && !negative then none else pure x
  return Decimal.Style.positional.text (if negative then -x else x)

/-! ## Dates and times -/

/-- The number of two digits. -/
def two (a b : Char) : Option Nat :=
  if isDigit a && isDigit b then some (10 * digitValue a + digitValue b) else none

/-- The days of a month. -/
def daysIn (year month : Nat) : Nat :=
  if month = 2 then
    if year % 4 = 0 && (year % 100 ≠ 0 || year % 400 = 0) then 29 else 28
  else if month = 4 || month = 6 || month = 9 || month = 11 then 30
  else 31

/-- Says whether the characters are a date; and what is behind it. -/
def date? (cs : List Char) : Option (List Char) :=
  match cs with
  | a :: b :: c :: d :: '-' :: e :: f :: '-' :: g :: h :: rest => do
    let year := 100 * (← two a b) + (← two c d)
    let month ← two e f
    let day ← two g h
    if 1 ≤ month && month ≤ 12 && 1 ≤ day && day ≤ daysIn year month then some rest else none
  | _ => none

/-- Says whether the characters are a time of the day; and what is behind it. -/
def time? (cs : List Char) : Option (List Char) :=
  match cs with
  | a :: b :: ':' :: c :: d :: ':' :: e :: f :: rest => do
    let hour ← two a b
    let minute ← two c d
    let second ← two e f
    if hour ≤ 23 && minute ≤ 59 && second ≤ 60 then
      match rest with
      | '.' :: fs =>
        if (fs.takeWhile isDigit).isEmpty then none else some (fs.dropWhile isDigit)
      | rest => some rest
    else none
  | _ => none

/-- Says whether the characters are nothing or a distance from universal time. -/
def isOffset (cs : List Char) : Bool :=
  match cs with
  | [] | ['Z'] | ['z'] => true
  | [s, a, b, ':', c, d] =>
    (s = '+' || s = '-') && (two a b).any (· ≤ 23) && (two c d).any (· ≤ 59)
  | _ => false

/-- Says whether a word is a date, a time, or both; `T` or a blank stands between. -/
def isMoment (cs : List Char) : Bool :=
  match date? cs with
  | some [] => true
  | some (c :: rest) => (c = 'T' || c = 't' || c = ' ') && (time? rest).any isOffset
  | none => (time? cs).any (·.isEmpty)

/-! ## Words -/

/-- The value that a word is. -/
def scalar? (cs : List Char) : Option Draft :=
  if cs = "true".toList then some (.flag true)
  else if cs = "false".toList then some (.flag false)
  else if isMoment cs then some .moment
  else match float? cs with
    | some text => some (.decimal text)
    | none => (integer? cs).map .integer

/-- The word at the beginning of a text, and what is behind it.  A date goes on behind
one blank if a digit follows. -/
def word (cs : List Char) : List Char × List Char :=
  let w := cs.takeWhile isWordChar
  let rest := cs.dropWhile isWordChar
  match date? w, rest with
  | some [], ' ' :: c :: _ =>
    if isDigit c then
      let more := rest.drop 1
      (w ++ ' ' :: more.takeWhile isWordChar, more.dropWhile isWordChar)
    else (w, rest)
  | _, _ => (w, rest)

end OpStack.Document.Toml
