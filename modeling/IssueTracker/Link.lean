import IssueTracker.Link.Web
import IssueTracker.Snapshot
/-!
# Links

A link of an issue leads to an address or to another issue, never to both.
-/

namespace IssueTracker

/-- A link of an issue. -/
inductive Link where
  | web (link : WebLink)
  | issue (target : Snapshot) (relationship : String)

namespace Link

/-- The name of the relationship. -/
def relationship : Link → Option String
  | web link => link.relationship
  | issue _ relationship => some relationship

instance : BEq Link where
  beq
    | web a, web b => a == b
    | issue a r, issue b s => a == b && r == s
    | _, _ => false

end Link

end IssueTracker
