import IssueTracker.Json.Basic
import IssueTracker.Link.Type
import IssueTracker.Text.Capital
/-!
# A tracker in memory

A tracker that keeps its issues, comments and links as documents, and what can be put into it
directly.
-/

namespace IssueTracker

/-- A way from one status to another. -/
structure Transition where
  source : String
  target : String
  id : String
  deriving DecidableEq, Repr

/-- Everything a tracker holds. -/
structure Tracker where
  /-- The account that writes comments through requests. -/
  user : String
  nextCommentId : Nat
  nextRemoteLinkId : Nat
  issues : Table Json
  /-- The comments of each issue, oldest first. -/
  comments : Table (List Json)
  remoteLinks : Table (List Json)
  workflow : List Transition
  linkTypes : List LinkType
  deniesRemoteLinks : Bool
  /-- The requests that were made, oldest first. -/
  log : List String

namespace Tracker

/-- When everything was created. -/
def createdStamp : String := "2024-03-01T10:15:30.000+0000"

/-- When everything was updated. -/
def updatedStamp : String := "2024-03-02T08:00:00.000+0000"

/-- The name that an account is shown under. -/
def displayName (account : String) : String := Text.capitalize account

/-- A tracker without issues. -/
def empty (user : String) : Tracker where
  user
  nextCommentId := 10000
  nextRemoteLinkId := 500
  issues := []
  comments := []
  remoteLinks := []
  workflow := []
  linkTypes := []
  deniesRemoteLinks := false
  log := []

variable (t : Tracker)

/-! ## Documents -/

/-- The document of a new issue. -/
def newIssue (key summary status : String) : Json :=
  .ofMembers [
    ("key", .str key),
    ("id", .str (toString (20000 + t.issues.length))),
    ("fields", .ofMembers [
      ("summary", .str summary),
      ("description", .null),
      ("status", .ofMembers [("name", .str status)]),
      ("resolution", .null),
      ("created", .str createdStamp),
      ("updated", .str createdStamp),
      ("creator", .ofMembers [
        ("key", .str "JIRAUSER1"),
        ("name", .str t.user),
        ("displayName", .str (displayName t.user))]),
      ("assignee", .null),
      ("labels", .arr []),
      ("issuelinks", .arr []),
      ("customfield_11700", .num 0)])]

/-- The document of a new comment. -/
def newComment (author body : String) : Json :=
  .ofMembers [
    ("id", .str (toString t.nextCommentId)),
    ("body", .str body),
    ("author", .ofMembers [("name", .str author), ("displayName", .str (displayName author))]),
    ("created", .str createdStamp),
    ("updated", .str createdStamp)]

/-- A document with a member of its fields set, unless there is no place for it. -/
def withField? (field : String) (value : Json) (issue : Json) : Option Json := do
  let fields ← (issue.getD "fields").set? field value
  issue.set? "fields" fields

/-! ## What is there -/

/-- The comments of an issue. -/
def commentsOf (key : String) : List Json := (Table.get? key t.comments).getD []

/-- The remote links of an issue. -/
def remoteLinksOf (key : String) : List Json := (Table.get? key t.remoteLinks).getD []

/-- The texts of an issue's comments. -/
def commentBodies (key : String) : List String :=
  (t.commentsOf key).filterMap fun comment => (comment.getD "body").asString?

/-- How often a request was made. -/
def countCalls (line : String) : Nat := t.log.count line

/-! ## Putting something in -/

/-- Adds an issue. -/
def addIssue (key summary status : String) : Tracker :=
  { t with issues := t.issues.insert key (t.newIssue key summary status) }

/-- Replaces the document of an issue. -/
def putIssue (key : String) (issue : Json) : Tracker :=
  { t with issues := t.issues.insert key issue }

/-- Replaces the comments of an issue. -/
def putComments (key : String) (comments : List Json) : Tracker :=
  { t with comments := t.comments.insert key comments }

/-- Replaces the remote links of an issue. -/
def putRemoteLinks (key : String) (entries : List Json) : Tracker :=
  { t with remoteLinks := t.remoteLinks.insert key entries }

/-- Overwrites a field of an issue; nothing when there is no place for it. -/
def setField? (key field : String) (value : Json) : Option Tracker :=
  match Table.get? key t.issues with
  | none => some t
  | some issue => (withField? field value issue).map (t.putIssue key)

/-- Adds a comment, and tells its id. -/
def addComment (key author body : String) : Tracker × String :=
  let comments := t.commentsOf key ++ [t.newComment author body]
  ({ t.putComments key comments with nextCommentId := t.nextCommentId + 1 },
    toString t.nextCommentId)

/-- Adds a remote link as it is. -/
def addRemoteLink (key : String) (entry : Json) : Tracker :=
  t.putRemoteLinks key (t.remoteLinksOf key ++ [entry])

end Tracker

end IssueTracker
