import OpStack.Settings.Basic

/-!
# OpStack.Settings.Printer

Settings as a JSON text: all fields in a fixed order, without blanks.
-/

namespace OpStack.Settings

/-- The four hexadecimal digits of a control character. -/
def controlDigits (c : Char) : List Char :=
  let ds := Nat.toDigits 16 c.toNat
  List.replicate (4 - ds.length) '0' ++ ds

/-- The written form of a character inside a JSON text. -/
def printChar (c : Char) : List Char :=
  if c = '"' then ['\\', '"']
  else if c = '\\' then ['\\', '\\']
  else if c = '\x08' then ['\\', 'b']
  else if c = '\x0c' then ['\\', 'f']
  else if c = '\n' then ['\\', 'n']
  else if c = '\r' then ['\\', 'r']
  else if c = '\t' then ['\\', 't']
  else if c < ' ' then '\\' :: 'u' :: controlDigits c
  else [c]

def printText (s : String) : String :=
  String.ofList ('"' :: s.toList.flatMap printChar ++ ['"'])

def printFlag (b : Bool) : String := if b then "true" else "false"

/-- A table of names with written values. -/
def printTable (members : List (String × String)) : String :=
  "\x7b" ++ ",".intercalate (members.map fun m => printText m.1 ++ ":" ++ m.2) ++ "\x7d"

/-- The settings as a JSON text. -/
def print (s : Settings) : String :=
  printTable
    [("stack", printTable
        [("id", printText s.stack.id),
         ("instrument", printFlag s.stack.instrument)]),
     ("logging", printTable
        [("enabled", printFlag s.logging.enabled),
         ("level", printText s.logging.level),
         ("format", printText s.logging.format.word),
         ("ansi_enabled", printFlag s.logging.ansiEnabled),
         ("include_location", printFlag s.logging.includeLocation)])]

end OpStack.Settings
