/-!
# OpStack.Document.Decimal

Decimal texts of floating point numbers of 64 bits: the fewest digits that read
back as the number, and of several such texts the nearest.

A finite number is `m * 2 ^ q`.  The numbers that round to it fill the interval
between its neighbours' midpoints, ends included when `m` is even.  For one, two,
three … digits the two points of the decimal grid around the number are tried;
the first grid with a point inside the interval gives the digits.
-/

namespace OpStack.Document.Decimal

/-- A decimal number `digits * 10 ^ exponent`. -/
structure Scientific where
  digits : Nat
  exponent : Int
  deriving DecidableEq, Repr

/-- A fraction of whole numbers. -/
structure Fraction where
  num : Nat
  den : Nat
  deriving DecidableEq, Repr

/-- The fraction `n * 2 ^ s`. -/
def Fraction.shifted (n : Nat) (s : Int) : Fraction :=
  if 0 ≤ s then ⟨n * Nat.pow 2 s.toNat, 1⟩ else ⟨n, Nat.pow 2 (-s).toNat⟩

/-- The fraction `n * 10 ^ k`. -/
def Fraction.scaled (n : Nat) (k : Int) : Fraction :=
  if 0 ≤ k then ⟨n * Nat.pow 10 k.toNat, 1⟩ else ⟨n, Nat.pow 10 (-k).toNat⟩

/-- One fraction is below the other. -/
def Fraction.below (a b : Fraction) : Bool := a.num * b.den < b.num * a.den

/-- A positive number with the interval of numbers that round to it. -/
structure Rounded where
  value : Fraction
  low : Fraction
  high : Fraction
  /-- The ends round to the number too. -/
  closed : Bool
  deriving DecidableEq, Repr

/-- The point is inside the interval. -/
def Rounded.holds (r : Rounded) (x : Fraction) : Bool :=
  if r.closed then !x.below r.low && !r.high.below x else r.low.below x && x.below r.high

/-- The number `m * 2 ^ q` and its interval; below a power of two the neighbour is
half as far away, except at the smallest exponent. -/
def Rounded.ofParts (m : Nat) (q : Int) (narrow : Bool) : Rounded where
  value := .shifted (4 * m) (q - 2)
  low := .shifted (4 * m - if narrow then 1 else 2) (q - 2)
  high := .shifted (4 * m + 2) (q - 2)
  closed := m % 2 == 0

/-- The exponent of the first digit: the greatest `p` of those down from `start` with
`10 ^ p` no more than the number. -/
def firstExponent (x : Fraction) (start : Int) : Nat → Int
  | 0 => start
  | n + 1 => if x.below (.scaled 1 start) then firstExponent x (start - 1) n else start

/-- How far a point is from the number, times a factor that is the same for all points
of one grid. -/
def distance (x point : Fraction) : Nat :=
  let a := x.num * point.den
  let b := point.num * x.den
  (a - b) + (b - a)

/-- The better of the two points `d` and `d + 1` of the grid `10 ^ k`, if one of them is
in the interval: the nearer one, and of two equally near ones the even one. -/
def onGrid (r : Rounded) (k : Int) : Option Scientific :=
  let d := if 0 ≤ k then r.value.num / (r.value.den * Nat.pow 10 k.toNat)
    else r.value.num * Nat.pow 10 (-k).toNat / r.value.den
  let lower := Fraction.scaled d k
  let upper := Fraction.scaled (d + 1) k
  match r.holds lower, r.holds upper with
  | false, false => none
  | true, false => some ⟨d, k⟩
  | false, true => some ⟨d + 1, k⟩
  | true, true =>
    let a := distance r.value lower
    let b := distance r.value upper
    if a < b || (a = b && d % 2 = 0) then some ⟨d, k⟩ else some ⟨d + 1, k⟩

/-- The shortest decimal with at least `used` digits, of which the first has the
exponent `p`; `more` further digits may be tried. -/
def search (r : Rounded) (p : Int) (used : Nat) : Nat → Scientific
  | 0 => ⟨0, 0⟩
  | more + 1 =>
    match onGrid r (p - used + 1) with
    | some s => s
    | none => search r p (used + 1) more

/-- The same number without zeros at the end of its digits. -/
def Scientific.trimmed (s : Scientific) : Nat → Scientific
  | 0 => s
  | n + 1 =>
    if s.digits % 10 = 0 && s.digits ≠ 0 then
      Scientific.trimmed ⟨s.digits / 10, s.exponent + 1⟩ n
    else s

/-- The shortest decimal of a finite number that is not zero, without its sign. -/
def shortest (x : Float) : Scientific :=
  let bits : Nat := x.toBits.toNat
  let fraction : Nat := bits % Nat.pow 2 52
  let exponent : Nat := bits / Nat.pow 2 52 % Nat.pow 2 11
  let r :=
    if exponent = 0 then Rounded.ofParts fraction (-1074) false
    else Rounded.ofParts (Nat.pow 2 52 + fraction) ((exponent : Int) - 1075) (fraction == 0 && exponent != 1)
  let p := firstExponent r.value 308 640
  (search r p 1 18).trimmed 20

/-- How the digits are set out: exponents of the first digit that are written
without an exponent, all if no bound is given. -/
structure Style where
  lowest : Option Int
  highest : Option Int
  infinite : String
  undefined : String
  deriving DecidableEq, Repr

/-- A run of zeros. -/
def zeros (n : Nat) : String := String.ofList (List.replicate n '0')

/-- The digits with a decimal point, or with one digit before the point and an
exponent. -/
def Style.write (style : Style) (s : Scientific) : String :=
  let ds := toString s.digits
  let point := ds.length + s.exponent
  let first := point - 1
  if style.lowest.all (· ≤ first) && style.highest.all (first ≤ ·) then
    if 0 ≤ s.exponent then ds ++ zeros s.exponent.toNat ++ ".0"
    else if 0 < point then
      String.ofList (ds.toList.take point.toNat) ++ "." ++ String.ofList (ds.toList.drop point.toNat)
    else "0." ++ zeros (-point).toNat ++ ds
  else
    let tail := String.ofList (ds.toList.drop 1)
    String.ofList (ds.toList.take 1) ++ (if tail = "" then "" else "." ++ tail)
      ++ "e" ++ toString first

/-- The text of a number. -/
def Style.text (style : Style) (x : Float) : String :=
  let sign := if x.toBits.toNat / Nat.pow 2 63 = 1 then "-" else ""
  if x.isNaN then style.undefined
  else if x.isInf then sign ++ style.infinite
  else if x.toBits.toNat % Nat.pow 2 63 = 0 then sign ++ "0.0"
  else sign ++ style.write (shortest x)

/-- Exponents are written from `1e16` on and below `1e-5`. -/
def Style.compact : Style := ⟨some (-5), some 15, "inf", "NaN"⟩

/-- Exponents are never written. -/
def Style.positional : Style := ⟨none, none, "inf", "NaN"⟩

end OpStack.Document.Decimal
