/-!
# ASCII letter case

Lower case of the letters A to Z, all other characters left alone.
-/

namespace IssueTracker.Text

/-- A text with its letters A to Z in lower case. -/
def lower (s : String) : String := String.ofList (s.toList.map Char.toLower)

/-- Whether two texts are equal up to the case of the letters A to Z. -/
def sameLetters (s t : String) : Bool := s.toList.map Char.toLower = t.toList.map Char.toLower

end IssueTracker.Text
