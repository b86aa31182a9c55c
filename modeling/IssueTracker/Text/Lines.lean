import IssueTracker.Text.Split
/-!
# Lines

The lines of a text. A line ends at a line feed, with a carriage return directly before it
dropped, or at the end of the text; nothing follows a final line feed.
-/

namespace IssueTracker.Text

/-- A line without the carriage return at its end. -/
def dropReturn : List Char → List Char
  | [] => []
  | ['\r'] => []
  | c :: cs => c :: dropReturn cs

/-- Lines from the pieces between line feeds, the last of which is none when it is empty. -/
def linesOfPieces : List (List Char) → List (List Char)
  | [] => []
  | [last] => if last = [] then [] else [last]
  | piece :: rest => dropReturn piece :: linesOfPieces rest

/-- The lines of a text. -/
def lines (cs : List Char) : List (List Char) := linesOfPieces (splitOn '\n' cs)

end IssueTracker.Text
