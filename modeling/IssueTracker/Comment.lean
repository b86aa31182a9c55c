import IssueTracker.Document
import IssueTracker.User
/-!
# Comments

Comments as the tracker stores them, and how they are read from its documents.
-/

namespace IssueTracker

/-- A comment of an issue. -/
structure Comment where
  id : String
  body : String
  author : User
  createdAt : Timestamp
  updatedAt : Timestamp
  deriving DecidableEq

namespace Comment

open Json (Pointer)

/-- The comment that a document describes. An author without a display name is shown by the
account name. -/
def ofJson (doc : Json) : Except TrackerError Comment := do
  let name ← doc.stringAt (.ofKeys ["author", "name"])
  let fullName := (doc.stringAt? (.ofKeys ["author", "displayName"])).getD name
  return {
    id := ← doc.idAt (.ofKeys ["id"])
    body := ← doc.stringAt (.ofKeys ["body"])
    author := .ofAccount name fullName
    createdAt := ← doc.timestampAt (.ofKeys ["created"])
    updatedAt := ← doc.timestampAt (.ofKeys ["updated"])
  }

end Comment

end IssueTracker
