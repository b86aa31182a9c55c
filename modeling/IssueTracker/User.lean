import IssueTracker.Json.Shape
/-!
# Users

Accounts of the tracker, by the id it accepts, the account name and the full name.
-/

namespace IssueTracker

/-- An account of the tracker. -/
structure User where
  id : String
  username : String
  fullName : String
  deriving DecidableEq, Repr

namespace User

/-- The user of an account whose name is also its id. -/
def ofAccount (username fullName : String) : User := ⟨username, username, fullName⟩

/-- The user that a record describes. -/
def ofJson (doc : Json) : Except TrackerError User := do
  match ← doc.fields ["id", "username", "full_name"] with
  | [id, username, fullName] => return ⟨← Json.text id, ← Json.text username, ← Json.text fullName⟩
  | _ => throw .json

end User

end IssueTracker
