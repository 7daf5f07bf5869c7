import OpStack.Text.Printable

/-!
# OpStack.Text.Quoted

Texts between quotation marks.  A backslash marks what does not stand for
itself: `\"`, `\\`, the named controls `\0`, `\t`, `\n`, `\r`, and for every other
character that is not plain the hexadecimal code point, as in `\u{301}`.
-/

namespace OpStack.Text

/-- The code point of `c` in hexadecimal, without leading zeros. -/
def hexDigits (c : Char) : List Char := Nat.toDigits 16 c.toNat

/-- The written form of one character. -/
def quoteChar (c : Char) : List Char :=
  if c = '\x00' then ['\\', '0']
  else if c = '\t' then ['\\', 't']
  else if c = '\n' then ['\\', 'n']
  else if c = '\r' then ['\\', 'r']
  else if c = '"' then ['\\', '"']
  else if c = '\\' then ['\\', '\\']
  else if isPlain c then [c]
  else '\\' :: 'u' :: '{' :: hexDigits c ++ ['}']

/-- The written form of a text, quotation marks included. -/
def quoteChars (cs : List Char) : List Char :=
  '"' :: cs.flatMap quoteChar ++ ['"']

/-- The written form of a text, quotation marks included. -/
def quote (s : String) : String := String.ofList (quoteChars s.toList)

end OpStack.Text
