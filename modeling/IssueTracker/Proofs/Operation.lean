import IssueTracker.Snapshot.Operations
/-!
# Operations as data

Everything that can be asked of an issue or of a project, as data, so that a statement about all of
it needs no list of its own. What a snapshot holds is read without requests and has no part in it.
-/

namespace IssueTracker

/-! ## Issues -/

/-- What can be done with the issue of a snapshot. -/
inductive Action where
  | setTitle (title : String)
  | setBody (body : String)
  | comments
  | addComment (body : String)
  | updateComment (id body : String)
  | removeComment (id : String)
  | setState (target : State)
  | labels
  | addLabel (label : String)
  | removeLabel (label : String)
  | setLabels (labels : List String)
  | setAssignees (users : List User)
  | closedBy
  | links
  | addLink (link : Link)
  | removeLink (link : Link)
  | setProperty (name : String) (value : Json)
  | removeProperty

namespace Action

/-- What an action gives back. -/
def Reply : Action → Type
  | comments => List Comment
  | addComment _ | updateComment _ _ => Comment
  | labels => List String × Snapshot
  | setLabels _ => Snapshot
  | closedBy => Option User
  | links => List Link
  | _ => Unit

/-- The program of an action on a snapshot of a project. -/
def program (p : Project) (s : Snapshot) : (a : Action) → Program a.Reply
  | setTitle title => s.setTitle p title
  | setBody body => s.setBody p body
  | comments => s.comments p
  | addComment body => s.addComment p body
  | updateComment id body => s.updateComment p id body
  | removeComment id => s.removeComment p id
  | setState target => s.setState target
  | labels => s.fetchLabels
  | addLabel label => (s.addLabel label).2
  | removeLabel label => (s.removeLabel label).2
  | setLabels names => s.setLabels names
  | setAssignees users => s.setAssignees users
  | closedBy => Snapshot.closedBy
  | links => s.links p
  | addLink link => s.addLink p link
  | removeLink link => s.removeLink p link
  | setProperty name value => s.setProperty p name value
  | removeProperty => Snapshot.removeProperty

/-- How an action changes the labels. -/
def labelChange? : Action → Option (String × Json)
  | addLabel label => some ("add", .str label)
  | removeLabel label => some ("remove", .str label)
  | setLabels names => some ("set", .arr (names.map .str))
  | _ => none

end Action

/-! ## Projects -/

/-- What can be asked of a project: an action on one of its issues, or something of its own. -/
inductive Operation where
  | act (s : Snapshot) (a : Action)
  | issue (id : String)
  | linkTypes
  | createIssueLink (document : Json)

namespace Operation

/-- What an operation gives back. -/
def Reply : Operation → Type
  | act _ a => a.Reply
  | issue _ => Option Snapshot
  | linkTypes => List LinkType
  | createIssueLink _ => Unit

/-- The program of an operation on a project. -/
def program (p : Project) : (op : Operation) → Program op.Reply
  | act s a => a.program p s
  | issue id => Project.issue id
  | linkTypes => Project.linkTypes
  | createIssueLink document => Project.createIssueLink document

end Operation

end IssueTracker
