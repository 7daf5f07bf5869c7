/-!
# OpStack.Text.Utf8

Bytes read as UTF-8.  The fault of a malformed text is where its longest valid
beginning ends, and either how many bytes can never start a character there or
that the text stops inside one.
-/

namespace OpStack.Text

/-- Why bytes are no UTF-8 text. -/
inductive Utf8Fault where
  /-- The `width` bytes at `start` begin no character. -/
  | invalid (start width : Nat)
  /-- The text ends inside the character at `start`. -/
  | incomplete (start : Nat)
  deriving DecidableEq, Repr

/-- The text of a fault. -/
def Utf8Fault.message : Utf8Fault → String
  | invalid start width =>
    "invalid utf-8 sequence of " ++ toString width ++ " bytes from index " ++ toString start
  | incomplete start => "incomplete utf-8 byte sequence from index " ++ toString start

/-- The bytes of the text. -/
def utf8Bytes (s : String) : List UInt8 := s.toUTF8.toList

/-- A byte that goes on with a character. -/
def isContinuation (b : UInt8) : Bool := 0x80 ≤ b && b ≤ 0xbf

/-- How many bytes a character has by its first; zero when none starts so. -/
def utf8Width (b : UInt8) : Nat :=
  if b < 0x80 then 1
  else if 0xc2 ≤ b && b ≤ 0xdf then 2
  else if 0xe0 ≤ b && b ≤ 0xef then 3
  else if 0xf0 ≤ b && b ≤ 0xf4 then 4
  else 0

/-- The second byte of a character of three or four bytes: no longer form than
needed, no surrogate, nothing above the last code point. -/
def isSecond (first second : UInt8) : Bool :=
  if first = 0xe0 then 0xa0 ≤ second && second ≤ 0xbf
  else if first = 0xed then 0x80 ≤ second && second ≤ 0x9f
  else if first = 0xf0 then 0x90 ≤ second && second ≤ 0xbf
  else if first = 0xf4 then 0x80 ≤ second && second ≤ 0x8f
  else isContinuation second

/-- The six low bits of a continuation byte. -/
def payloadBits (b : UInt8) : Nat := b.toNat % 64

/-- The characters of `bytes`, of which the first has index `start`. -/
def utf8Chars (start : Nat) : List UInt8 → Except Utf8Fault (List Char)
  | [] => .ok []
  | a :: rest =>
    match utf8Width a, rest with
    | 1, rest => do
      let cs ← utf8Chars (start + 1) rest
      return Char.ofNat a.toNat :: cs
    | 2, [] => .error (.incomplete start)
    | 2, b :: rest =>
      if isContinuation b then do
        let cs ← utf8Chars (start + 2) rest
        return Char.ofNat (a.toNat % 32 * 64 + payloadBits b) :: cs
      else .error (.invalid start 1)
    | 3, [] => .error (.incomplete start)
    | 3, b :: rest =>
      if isSecond a b then
        match rest with
        | [] => .error (.incomplete start)
        | c :: rest =>
          if isContinuation c then do
            let cs ← utf8Chars (start + 3) rest
            return Char.ofNat (a.toNat % 16 * 4096 + payloadBits b * 64 + payloadBits c) :: cs
          else .error (.invalid start 2)
      else .error (.invalid start 1)
    | 4, [] => .error (.incomplete start)
    | 4, b :: rest =>
      if isSecond a b then
        match rest with
        | [] => .error (.incomplete start)
        | [c] =>
          if isContinuation c then .error (.incomplete start) else .error (.invalid start 2)
        | c :: d :: rest =>
          if !isContinuation c then .error (.invalid start 2)
          else if !isContinuation d then .error (.invalid start 3)
          else do
            let cs ← utf8Chars (start + 4) rest
            let n := a.toNat % 8 * 262144 + payloadBits b * 4096 + payloadBits c * 64
              + payloadBits d
            return Char.ofNat n :: cs
      else .error (.invalid start 1)
    | _, _ => .error (.invalid start 1)

/-- The text that the bytes spell. -/
def ofUtf8 (bytes : List UInt8) : Except Utf8Fault String :=
  (utf8Chars 0 bytes).map String.ofList

end OpStack.Text
