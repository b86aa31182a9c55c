import IssueTracker.Comment
import IssueTracker.Program
/-!
# Comments of an issue

Listing, writing and removing the comments of one issue. Where a project restricts comments
to a role, everything that is written carries the restriction.
-/

namespace IssueTracker

/-- The comments of one issue, and the role they are restricted to. -/
structure CommentStore where
  issuePath : String
  role : Option String

namespace CommentStore

/-- The path of all comments. -/
def path (store : CommentStore) : String := store.issuePath ++ "/comment"

/-- The path of one comment. -/
def commentPath (store : CommentStore) (id : String) : String := store.path ++ "/" ++ id

/-- What restricts a comment to a role. -/
def restriction (role : String) : Json :=
  .ofMembers [("type", .str "role"), ("value", .str role)]

/-- The document for a comment's body. -/
def bodyDocument (store : CommentStore) (body : String) : Json :=
  .ofMembers (("body", .str body) ::
    match store.role with
    | some role => [("visibility", restriction role)]
    | none => [])

/-- The largest page that the tracker gives. -/
def pageSize : String := "1000"

/-- The comments, oldest first. -/
def list (store : CommentStore) : Program (List Comment) := do
  let page ← Program.execute ((Request.get store.path).param "maxResults" pageSize)
  .done ((page.itemsAt (.ofKeys ["comments"])).mapM Comment.ofJson)

/-- Writes a new comment. -/
def create (store : CommentStore) (body : String) : Program Comment := do
  let document ← Program.execute (.post store.path (store.bodyDocument body))
  .done (Comment.ofJson document)

/-- Gives a comment another body. -/
def update (store : CommentStore) (id body : String) : Program Comment := do
  let document ← Program.execute (.put (store.commentPath id) (store.bodyDocument body))
  .done (Comment.ofJson document)

/-- The document that stands for something that was removed before. -/
def alreadyDeleted : Json := .ofMembers [("already_deleted", .bool true)]

/-- Removes a comment. One that is gone already counts as removed. -/
def delete (store : CommentStore) (id : String) : Program Unit :=
  Program.perform ((Request.delete (store.commentPath id)).onStatus 404 alreadyDeleted)

end CommentStore

end IssueTracker
