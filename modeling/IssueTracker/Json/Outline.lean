import IssueTracker.Json.Basic
import IssueTracker.Text.Quoted
/-!
# Outlines of documents

A document written out with the kind of every value, as it is quoted in messages.
-/

namespace IssueTracker.Json

/-- Pieces with commas and spaces between them. -/
def listed (pieces : List String) : String := String.intercalate ", " pieces

/-- Text in brackets. -/
def bracketed (s : String) : String := "[" ++ s ++ "]"

/-- Text in braces. -/
def braced (s : String) : String := "\x7b" ++ s ++ "\x7d"

mutual

/-- A value with its kind. -/
def outline : Json → String
  | .null => "Null"
  | .bool b => "Bool(" ++ (if b then "true" else "false") ++ ")"
  | .num n => "Number(" ++ n.render ++ ")"
  | .str s => "String(" ++ Text.quoted s ++ ")"
  | .arr items => "Array " ++ bracketed (listed (outlineItems items))
  | .obj members => "Object " ++ braced (listed (outlineMembers members))

/-- Each item. -/
def outlineItems : List Json → List String
  | [] => []
  | item :: rest => outline item :: outlineItems rest

/-- Each member. -/
def outlineMembers : List (String × Json) → List String
  | [] => []
  | (key, value) :: rest => (Text.quoted key ++ ": " ++ outline value) :: outlineMembers rest

end

end IssueTracker.Json
