import OpStack.Document.Decimal
import OpStack.Document.Draft

/-!
# OpStack.Document.Json

JSON texts.  A text is cut into tokens, and a machine with a stack of open lists
and tables puts the tokens together to a draft, from left to right and without
looking ahead.
-/

namespace OpStack.Document.Json

/-! ## Numbers -/

/-- Collected digits: a whole number below `2 ^ 64` and the power of ten that the
digits without room in it stand for. -/
structure Significand where
  value : Nat := 0
  exponent : Int := 0
  full : Bool := false
  deriving DecidableEq, Repr

/-- A digit before the point.  Once there is no more room only its place counts. -/
def Significand.whole (s : Significand) (d : Nat) : Significand :=
  if s.full || UInt64.size ≤ 10 * s.value + d then { s with exponent := s.exponent + 1, full := true }
  else { s with value := 10 * s.value + d }

/-- A digit behind the point.  Once there is no more room it does not count. -/
def Significand.fraction (s : Significand) (d : Nat) : Significand :=
  if s.full then s
  else if UInt64.size ≤ 10 * s.value + d then { s with full := true }
  else { s with value := 10 * s.value + d, exponent := s.exponent - 1 }

/-- The value of a decimal digit. -/
def digitValue (c : Char) : Nat := c.toNat - '0'.toNat

/-- A decimal digit. -/
def isDigit (c : Char) : Bool := '0' ≤ c && c ≤ '9'

/-- The exponents beyond this one are all alike. -/
def exponentEnd : Nat := UInt32.size / 2 - 1

/-- Scales a number by a power of ten in steps that a float can hold; nothing if the
number grows beyond all floats. -/
def scale (f : Float) (exponent : Int) : Nat → Option Float
  | 0 => some f
  | n + 1 =>
    if exponent < -308 then
      if f == 0.0 then some f else scale (f / Float.ofScientific 1 false 308) (exponent + 308) n
    else if exponent < 0 then some (f / Float.ofScientific 1 false exponent.natAbs)
    else if exponent ≤ 308 then
      let g := f * Float.ofScientific 1 false exponent.natAbs
      if g.isInf then none else some g
    else if f == 0.0 then some f
    else none

/-- The float that the digits and the exponent stand for. -/
def Significand.float (s : Significand) (exponent : Int) : Option Float :=
  scale (UInt64.ofNat s.value).toFloat exponent (exponent.natAbs / 308 + 2)

/-- The written exponent: its sign and digits, and what is behind. -/
def exponent? (cs : List Char) : Option (Bool × List Char × List Char) :=
  let (negative, cs) := match cs with
    | '+' :: cs => (false, cs)
    | '-' :: cs => (true, cs)
    | cs => (false, cs)
  let ds := cs.takeWhile isDigit
  if ds.isEmpty then none else some (negative, ds, cs.dropWhile isDigit)

/-- A number with sign and digits as written, and with a fraction or an exponent. -/
def decimal? (negative : Bool) (s : Significand) (exponent : Option (Bool × List Char)) :
    Option Draft :=
  let write (f : Float) : Draft :=
    .decimal (Decimal.Style.compact.text (if negative then -f else f))
  match exponent with
  | none => (s.float s.exponent).map write
  | some (down, ds) =>
    let n := ds.foldl (fun n c => 10 * n + digitValue c) 0
    if n ≤ exponentEnd then (s.float (if down then s.exponent - n else s.exponent + n)).map write
    else if s.value = 0 || down then some (write 0.0)
    else none

/-- A number without fraction and exponent: an integer, if it is one of 64 bits. -/
def integer? (negative : Bool) (digits : List Char) (s : Significand) : Option Draft :=
  let n := digits.foldl (fun n c => 10 * n + digitValue c) 0
  if negative then
    if 0 < n && n ≤ UInt64.size / 2 then some (.integer (-n)) else decimal? true s none
  else if n < UInt64.size then some (.integer n)
  else decimal? false s none

/-- The number at the beginning of a text, and what is behind it. -/
def number? (cs : List Char) : Option (Draft × List Char) := do
  let (negative, cs) := match cs with
    | '-' :: cs => (true, cs)
    | cs => (false, cs)
  let digits := cs.takeWhile isDigit
  let rest := cs.dropWhile isDigit
  if digits.isEmpty || (digits.head? = some '0' && 1 < digits.length) then none
  else
    let s := digits.foldl (fun s c => s.whole (digitValue c)) ({} : Significand)
    let (fraction, s, rest) ← match rest with
      | '.' :: more =>
        let fs := more.takeWhile isDigit
        if fs.isEmpty then none
        else pure (true, fs.foldl (fun s c => s.fraction (digitValue c)) s, more.dropWhile isDigit)
      | rest => pure (false, s, rest)
    match rest with
    | c :: more =>
      if c = 'e' || c = 'E' then
        let (down, ds, behind) ← exponent? more
        let d ← decimal? negative s (some (down, ds))
        pure (d, behind)
      else
        let d ← if fraction then decimal? negative s none else integer? negative digits s
        pure (d, rest)
    | [] =>
      let d ← if fraction then decimal? negative s none else integer? negative digits s
      pure (d, [])

/-! ## Texts -/

/-- The value of a hexadecimal digit. -/
def hexValue? (c : Char) : Option Nat :=
  if isDigit c then some (digitValue c)
  else if 'a' ≤ c && c ≤ 'f' then some (c.toNat - 'a'.toNat + 10)
  else if 'A' ≤ c && c ≤ 'F' then some (c.toNat - 'A'.toNat + 10)
  else none

/-- The number of four hexadecimal digits. -/
def hex4? (a b c d : Char) : Option Nat := do
  let a ← hexValue? a
  let b ← hexValue? b
  let c ← hexValue? c
  let d ← hexValue? d
  return ((a * 16 + b) * 16 + c) * 16 + d

/-- The character of a short escape. -/
def escaped? (c : Char) : Option Char :=
  if c = '"' || c = '\\' || c = '/' then some c
  else if c = 'b' then some '\x08'
  else if c = 'f' then some '\x0c'
  else if c = 'n' then some '\n'
  else if c = 'r' then some '\r'
  else if c = 't' then some '\t'
  else none

/-- A text up to its closing quotation mark, and what is behind it. -/
def textBody? : List Char → Option (List Char × List Char)
  | [] => none
  | '"' :: cs => some ([], cs)
  | '\\' :: 'u' :: a :: b :: c :: d :: cs =>
    match hex4? a b c d with
    | none => none
    | some n =>
      if n < 0xd800 || 0xe000 ≤ n then
        (textBody? cs).map fun r => (Char.ofNat n :: r.1, r.2)
      else if 0xdc00 ≤ n then none
      else
        match cs with
        | '\\' :: 'u' :: a :: b :: c :: d :: cs =>
          match hex4? a b c d with
          | some m =>
            if 0xdc00 ≤ m && m < 0xe000 then
              (textBody? cs).map fun r =>
                (Char.ofNat (0x10000 + (n - 0xd800) * 0x400 + (m - 0xdc00)) :: r.1, r.2)
            else none
          | none => none
        | _ => none
  | '\\' :: e :: cs =>
    match escaped? e with
    | some c => (textBody? cs).map fun r => (c :: r.1, r.2)
    | none => none
  | c :: cs => if c < ' ' then none else (textBody? cs).map fun r => (c :: r.1, r.2)

/-! ## Tokens -/

/-- A piece of a JSON text. -/
inductive Token where
  /-- One of the characters `[`, `]`, `{`, `}`, `,` and `:`. -/
  | mark (c : Char)
  /-- A value that is neither list nor table. -/
  | scalar (d : Draft)
  /-- Something that is no piece of a JSON text. -/
  | bad

/-- The blanks between tokens. -/
def isBlank (c : Char) : Bool := c = ' ' || c = '\n' || c = '\t' || c = '\r'

/-- The characters that are tokens by themselves. -/
def isMark (c : Char) : Bool := "[]\x7b\x7d,:".toList.contains c

/-- The value at the beginning of a text, and what is behind it. -/
def scalar? (cs : List Char) : Option (Draft × List Char) :=
  match cs with
  | '"' :: cs => (textBody? cs).map fun r => (.text (String.ofList r.1), r.2)
  | 'n' :: 'u' :: 'l' :: 'l' :: cs => some (.null, cs)
  | 't' :: 'r' :: 'u' :: 'e' :: cs => some (.flag true, cs)
  | 'f' :: 'a' :: 'l' :: 's' :: 'e' :: cs => some (.flag false, cs)
  | cs => number? cs

/-- The tokens of a text, up to the first bad one. -/
def tokens (cs : List Char) : List Token :=
  match cs with
  | [] => []
  | c :: rest =>
    if isBlank c then tokens rest
    else if isMark c then .mark c :: tokens rest
    else
      match scalar? (c :: rest) with
      | none => [.bad]
      | some (d, behind) =>
        if behind.length < (c :: rest).length then .scalar d :: tokens behind else [.bad]
termination_by cs.length
decreasing_by
  · exact Nat.lt_succ_self _
  · exact Nat.lt_succ_self _
  · assumption

/-! ## The machine -/

/-- A list or table that is not closed yet, with what it has so far, last first. -/
inductive Frame where
  | list (items : List Draft)
  | table (members : List (Draft × Draft))
  /-- A table that waits for the value of a name. -/
  | member (members : List (Draft × Draft)) (name : Draft)

/-- Where the reading stands; the innermost open frame comes first. -/
inductive State where
  /-- A value must come. -/
  | value (frames : List Frame)
  /-- An item or a name must come, or, right behind the opening mark, the closing one. -/
  | entry (first : Bool) (frames : List Frame)
  /-- A colon must come. -/
  | colon (frames : List Frame)
  /-- A comma or the closing mark must come. -/
  | after (frames : List Frame)
  /-- The document is complete; nothing may come. -/
  | finished (d : Draft)
  /-- Reading is over. -/
  | ended (doc : Document)

/-- A frame with a value in the place that waits for it, as a value itself. -/
def Frame.close (f : Frame) (d : Draft) : Draft :=
  match f with
  | list items => .list (items.reverse ++ [d])
  | table members => .table (members.reverse ++ [(d, .broken)])
  | member members name => .table (members.reverse ++ [(name, d)])

/-- The document so far, with `d` in the place where the reading stands. -/
def giveUp (frames : List Frame) (d : Draft) : State :=
  .ended ⟨frames.foldl (fun d f => f.close d) d, true⟩

/-- Puts a complete value into the innermost frame. -/
def deliver (frames : List Frame) (d : Draft) : State :=
  match frames with
  | [] => .finished d
  | .list items :: fs => .after (.list (d :: items) :: fs)
  | .member members name :: fs => .after (.table ((name, d) :: members) :: fs)
  | .table members :: fs => giveUp (.table members :: fs) d

/-- Reads a token where a value must come. -/
def readValue (frames : List Frame) : Token → State
  | .scalar d => deliver frames d
  | .mark '[' => .entry true (.list [] :: frames)
  | .mark '{' => .entry true (.table [] :: frames)
  | _ => giveUp frames .broken

/-- Reads a token where a name must come. -/
def readName (members : List (Draft × Draft)) (frames : List Frame) : Token → State
  | .scalar (.text s) => .colon (.member members (.text s) :: frames)
  | .scalar d => giveUp (.table members :: frames) d
  | .mark '[' => giveUp (.table members :: frames) (.list [])
  | .mark '{' => giveUp (.table members :: frames) (.table [])
  | _ => giveUp (.table members :: frames) .broken

/-- Reads a token. -/
def State.step (s : State) (t : Token) : State :=
  match s with
  | value frames => readValue frames t
  | entry first frames =>
    match frames, t with
    | .list items :: fs, .mark ']' =>
      if first then deliver fs (.list []) else giveUp (.list items :: fs) .broken
    | .table members :: fs, .mark '}' =>
      if first then deliver fs (.table []) else giveUp (.table members :: fs) .broken
    | .table members :: fs, t => readName members fs t
    | frames, t => readValue frames t
  | colon frames =>
    match t with
    | .mark ':' => .value frames
    | _ => giveUp frames .broken
  | after frames =>
    match frames, t with
    | .list items :: fs, .mark ']' => deliver fs (.list items.reverse)
    | .table members :: fs, .mark '}' => deliver fs (.table members.reverse)
    | frames, .mark ',' => .entry false frames
    | frames, _ => giveUp frames .broken
  | finished d => .ended ⟨d, false⟩
  | ended doc => .ended doc

/-- The document when the text ends. -/
def State.finish : State → Document
  | value frames | entry _ frames | colon frames | after frames =>
    match giveUp frames .broken with
    | ended doc => doc
    | _ => ⟨.broken, true⟩
  | finished d => ⟨d, true⟩
  | ended doc => doc

/-- Reads a text. -/
def read (s : String) : Document := ((tokens s.toList).foldl State.step (.value [])).finish

end OpStack.Document.Json
