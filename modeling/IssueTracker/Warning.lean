/-!
# Warnings

What the library reports while it goes on.
-/

namespace IssueTracker

/-- Something to report that is no error. -/
inductive Warning where
  | invalidLinkInComment
  | invalidIcon
  | nothingToResolve
  | unknownProperty
  | removingProperty
  | noParentValue
  | titleNotRestricted
  | bodyNotRestricted
  deriving DecidableEq, Repr

/-- The wording of a warning. -/
def Warning.message : Warning → String
  | invalidLinkInComment => "invalid link in web link comment"
  | invalidIcon => "ignoring invalid remote link icon"
  | nothingToResolve => "can't transition the issue to Resolved or Open"
  | unknownProperty => "ignoring unknown property"
  | removingProperty => "removing properties is not implemented"
  | noParentValue => "cascading field without parent value, encoding as plain select"
  | titleNotRestricted => "issue title does not support setting a visibility role - ignoring"
  | bodyNotRestricted => "issue body does not support setting a visibility role - ignoring"

end IssueTracker
