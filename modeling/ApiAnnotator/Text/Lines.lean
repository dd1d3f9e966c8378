import ApiAnnotator.Text.Blank

/-!
# Lines of a comment

A comment block becomes a list of lines. A line ends at a line feed, and a final line feed opens no
further line. Blanks at the end of a line are dropped, and with them the carriage return that some
files keep before a line feed; a carriage return inside a line stays.
-/

namespace ApiAnnotator.Text

/-- The lines of a text without their line feeds; a final line feed opens no further line. -/
def lineBodies (cs : List Char) : List (List Char) :=
  let parts := cs.splitOn '\n'
  if parts.getLast? = some [] then parts.dropLast else parts

/-- The lines of a comment block, each without the blanks at its end. -/
def docLines (s : String) : List String :=
  (lineBodies s.toList).map fun line => String.ofList (dropBlanksEnd line)

end ApiAnnotator.Text
