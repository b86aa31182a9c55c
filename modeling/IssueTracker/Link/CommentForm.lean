import IssueTracker.Link.Web
import IssueTracker.Text.Lines
import IssueTracker.Warning
/-!
# Links as comments

The text of a comment that stands for a web link:

```text
Remote link: <title>
URL: <uri>
[Summary: <summary>]
[Relationship: <relationship>]
```

Anything else is simply no link.
-/

namespace IssueTracker.WebLink.CommentForm

/-- What a comment turns out to be. -/
inductive Reading where
  | link (l : WebLink)
  | invalidUri
  | other
  deriving DecidableEq

/-- The link that was read. -/
def Reading.link? : Reading → Option WebLink
  | link l => some l
  | _ => none

/-- What is reported while reading. -/
def Reading.warnings : Reading → List Warning
  | invalidUri => [.invalidLinkInComment]
  | _ => []

/-- What stands before the title. -/
def titleMark : String := "Remote link: "

/-- What stands before the address. -/
def uriMark : String := "URL: "

/-- What stands before the summary. -/
def summaryMark : String := "Summary: "

/-- What stands before the relationship. -/
def relationshipMark : String := "Relationship: "

/-- What follows a mark at the start of a line. -/
def after? (mark : String) (line : List Char) : Option String :=
  if mark.toList.isPrefixOf line then some (String.ofList (line.drop mark.toList.length)) else none

/-- What follows a mark in the last of the lines that start with it. -/
def lastAfter? (mark : String) (lines : List (List Char)) : Option String :=
  (lines.filterMap (after? mark)).getLast?

/-- Reads the lines of a comment: title and address, then at most two more. -/
def readLines : List (List Char) → Reading
  | first :: second :: rest =>
    if 2 < rest.length then .other
    else
      match after? titleMark first, after? uriMark second with
      | some title, some uri =>
        match Url.parse uri with
        | .ok url =>
          .link { ofUri url title with
            summary := lastAfter? summaryMark rest
            relationship := lastAfter? relationshipMark rest }
        | .error _ => .invalidUri
      | _, _ => .other
  | _ => .other

/-- Reads a comment. -/
def read (body : String) : Reading := readLines (Text.lines body.toList)

/-- The link that a comment stands for. -/
def parse? (body : String) : Option WebLink := (read body).link?

/-- A line for a part that may be absent. -/
def optionalLine (mark : String) : Option String → String
  | some text => mark ++ text ++ "\n"
  | none => ""

/-- The comment for a link. -/
def render (l : WebLink) : String :=
  titleMark ++ l.title ++ "\n" ++ uriMark ++ l.uri.text ++ "\n" ++
    optionalLine summaryMark l.summary ++ optionalLine relationshipMark l.relationship

end IssueTracker.WebLink.CommentForm
