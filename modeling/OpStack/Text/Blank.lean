import OpStack.Text.Ranges

/-!
# OpStack.Text.Blank

White space, as Unicode has it: 25 characters.
-/

namespace OpStack.Text

/-- The code points with the property `White_Space`. -/
def blank : Ranges :=
  [(0x9, 0xd), (0x20, 0x20), (0x85, 0x85), (0xa0, 0xa0), (0x1680, 0x1680), (0x2000, 0x200a),
   (0x2028, 0x2029), (0x202f, 0x202f), (0x205f, 0x205f), (0x3000, 0x3000)]

/-- White space of every script; the separators U+001C to U+001F and the zero
width space do not count. -/
def isBlank (c : Char) : Bool :=
  blank.holds c

/-- A text without a character that shows. -/
def isBlankText (s : String) : Bool :=
  s.toList.all isBlank

/-- The characters between the first and the last that show. -/
def trim (cs : List Char) : List Char :=
  ((cs.dropWhile isBlank).reverse.dropWhile isBlank).reverse

end OpStack.Text
