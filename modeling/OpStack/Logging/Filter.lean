import OpStack.Trace

/-!
# OpStack.Logging.Filter

Filters for log records.  They are written as texts, in a language that is not of this library:
all that is relied on is that reading is a function of the text, which gives a filter or a
reason why there is none (`FilterReader`).
-/

namespace OpStack.Logging

/-- A language for filters. -/
class FilterReader where
  Filter : Type
  /-- The filter that a text says, or why it says none. -/
  read : String → Except String Filter

end OpStack.Logging
