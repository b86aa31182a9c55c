import IssueTracker.State
import IssueTracker.Url.Basic
/-!
# Errors

Why an operation on the tracker fails, how that is worded, and the code and hint that a
diagnostic shows with it.
-/

namespace IssueTracker

/-- Why no path of transitions reaches a state. -/
inductive TransitionError where
  | noneAvailable
  | resolvedViaOpen
  | closedViaResolved
  | unreachable (target : State)
  deriving DecidableEq, Repr

/-- What this library declines to do. -/
inductive UnsupportedOperation where
  | multipleAssignees
  | removingIssueLinks
  deriving DecidableEq, Repr

/-- What this library leaves out. -/
inductive MissingOperation where
  | closedBy
  | removeProperty
  deriving DecidableEq, Repr

/-- Why an operation fails. -/
inductive TrackerError where
  | transition (cause : TransitionError)
  | noSuchLinkType (relationship : String)
  | unsupported (operation : UnsupportedOperation)
  | malformedInput (text : String)
  | notImplemented (operation : MissingOperation)
  | invalidArgument (text : String)
  /-- An answer other than success that the request does not expect. -/
  | status (code : Nat) (body : String)
  /-- A fetched document lacks something. -/
  | document (text : String)
  | projectDropped
  | url (cause : UrlError)
  /-- No answer came, or none that HTTP allows. -/
  | http
  /-- A text is no JSON document, or the document has the wrong shape. -/
  | json
  | timestamp
  | config
  /-- A stored document has no place for what is to be stored. -/
  | brokenStore
  deriving DecidableEq, Repr

namespace TransitionError

/-- The wording of an error. -/
def message : TransitionError → String
  | noneAvailable => "no transitions available"
  | resolvedViaOpen => "cannot reach Resolved via Open"
  | closedViaResolved => "cannot reach Closed via Resolved"
  | unreachable target => "cannot reach " ++ target.name

end TransitionError

namespace UnsupportedOperation

/-- The wording of an operation. -/
def message : UnsupportedOperation → String
  | multipleAssignees => "multiple assignees"
  | removingIssueLinks => "removing issue links"

end UnsupportedOperation

namespace MissingOperation

/-- The wording of an operation. -/
def message : MissingOperation → String
  | closedBy => "closed_by"
  | removeProperty => "remove_property"

end MissingOperation

namespace TrackerError

/-- The wording of an error, where it has one of its own. -/
def message? : TrackerError → Option String
  | transition cause => some cause.message
  | noSuchLinkType relationship =>
    some ("no declared link type matches relationship '" ++ relationship ++ "'")
  | unsupported operation => some ("unsupported operation: " ++ operation.message)
  | malformedInput text => some ("malformed input: " ++ text)
  | notImplemented operation => some ("not implemented: " ++ operation.message)
  | invalidArgument text => some ("invalid argument: " ++ text)
  | status code body => some ("tracker responded with " ++ toString code ++ ": " ++ body)
  | document text => some ("invalid issue document: " ++ text)
  | projectDropped =>
    some "project context was dropped while issues still referenced it"
  | url cause => some cause.message
  | http | json | timestamp | config | brokenStore => none

/-- The status of an answer that was not expected. -/
def status? : TrackerError → Option Nat
  | status code _ => some code
  | _ => none

/-- The code of an error in diagnostics. -/
def code? : TrackerError → Option String
  | transition .noneAvailable => some "issue_bridge::transition::none_available"
  | transition .resolvedViaOpen => some "issue_bridge::transition::resolved_via_open"
  | transition .closedViaResolved => some "issue_bridge::transition::closed_via_resolved"
  | transition (.unreachable _) => some "issue_bridge::transition::unreachable"
  | noSuchLinkType _ => some "issue_bridge::link::no_such_type"
  | unsupported _ => some "issue_bridge::unsupported"
  | malformedInput _ => some "issue_bridge::malformed_input"
  | notImplemented _ => some "issue_bridge::not_implemented"
  | invalidArgument _ => some "issue_bridge::invalid_argument"
  | status _ _ => some "issue_bridge::transport::status"
  | document _ => some "issue_bridge::document"
  | projectDropped => some "issue_bridge::project::dropped"
  | config => some "issue_bridge::config"
  | url _ | http | json | timestamp | brokenStore => none

/-- The hint that a diagnostic gives. -/
def hint? : TrackerError → Option String
  | transition (.unreachable _) =>
    some "the issue's current status exposes no transition towards this state"
  | noSuchLinkType _ =>
    some "relationship must equal the inward or outward name of one of the project's link types"
  | config => some "check the settings file and ISSUE_BRIDGE__* environment variables"
  | _ => none

/-- The error for an issue, comment, link or route that the tracker does not have. -/
def notFound (what : String) : TrackerError := status 404 (what ++ " does not exist")

end TrackerError

/-- The state a user writes, or an error that quotes it as it was compared. -/
def State.parse (text : String) : Except TrackerError State :=
  match State.parse? text with
  | some s => .ok s
  | none =>
    .error (.invalidArgument
      ("unknown state '" ++ normalize text ++ "', expected open, resolved or closed"))

end IssueTracker
