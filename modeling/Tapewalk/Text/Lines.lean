/-!
# Lines

A text is cut at its line feeds. There is always one line more than there are line feeds.
-/

namespace Tapewalk

/-- The lines of a text, the first of which has begun with `line` in reverse. -/
def splitLinesFrom (line : List Char) : List Char → List (List Char)
  | [] => [line.reverse]
  | c :: cs =>
    if c = '\n' then line.reverse :: splitLinesFrom [] cs else splitLinesFrom (c :: line) cs

/-- The lines of a text, without the line feeds between them. -/
def splitLines (text : List Char) : List (List Char) := splitLinesFrom [] text

/-- A line without the carriage return at its end. -/
def stripReturn (line : List Char) : List Char :=
  if line.getLast? = some '\r' then line.dropLast else line

/-- The lines of a text of which each ends with a line feed, with or without a carriage return
before it. A last line without an end is kept as it is, unless it is empty. -/
def endedLines (text : List Char) : List (List Char) :=
  let lines := splitLines text
  lines.dropLast.map stripReturn ++ (lines.getLast?.toList.filter (· ≠ []))

end Tapewalk
