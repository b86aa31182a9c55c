import IssueTracker.Project
/-!
# Operations on snapshots

What can be done with an issue. Changes go to the tracker at once; the snapshot itself keeps
showing what was fetched, labels apart.
-/

namespace IssueTracker.Snapshot

open Json (Pointer)

variable (p : Project) (s : Snapshot)

/-- Changes the issue. -/
def update (query : Json) : Program Unit := Program.perform (.put s.path query)

/-- A change that sets one field. -/
def fieldsQuery (field : String) (value : Json) : Json :=
  .ofMembers [("fields", .ofMembers [(field, value)])]

/-- Sets the title; in a restricted project it is left alone. -/
def setTitle (title : String) : Program Unit :=
  if p.isRestricted then .warn .titleNotRestricted (return ())
  else s.update (fieldsQuery "summary" (.str title))

/-- Sets the description; in a restricted project it is left alone. -/
def setBody (body : String) : Program Unit :=
  if p.isRestricted then .warn .bodyNotRestricted (return ())
  else s.update (fieldsQuery "description" (.str body))

/-! ## Comments -/

/-- The comments of the issue. -/
def commentStore : CommentStore := ⟨s.path, p.visibilityRole⟩

/-- The comments, oldest first. -/
def comments : Program (List Comment) := (s.commentStore p).list

/-- Writes a new comment. -/
def addComment (body : String) : Program Comment := (s.commentStore p).create body

/-- Gives a comment another body. -/
def updateComment (id body : String) : Program Comment := (s.commentStore p).update id body

/-- Removes a comment. -/
def removeComment (id : String) : Program Unit := (s.commentStore p).delete id

/-- Where the issue can be seen. -/
def webUrl : Except TrackerError Url :=
  match p.webUrl.join ("browse/" ++ s.id) with
  | .ok url => .ok url
  | .error e => .error (.url e)

/-- Where a comment can be seen. -/
def commentUrl (id : String) : Except TrackerError Url :=
  (s.webUrl p).map fun url => url.setQuery ("focusedCommentId=" ++ id).toList

/-! ## State -/

/-- Moves the issue into a state. -/
def setState (target : State) : Program Unit := (Workflow.Drive.toward target).toProgram s.path

/-! ## Labels -/

/-- The labels, and the snapshot with them kept. -/
def fetchLabels : Program (List String × Snapshot) :=
  match s.labels with
  | some labels => return (labels, s)
  | none => do
    let document ← Program.execute (.get s.path)
    let labels := labelsOf document
    return (labels, { s with labels := some labels })

/-- A change of the labels. -/
def labelsQuery (operation : String) (operand : Json) : Json :=
  .ofMembers [("update", .ofMembers [("labels", .arr [.ofMembers [(operation, operand)]])])]

/-- The snapshot with its labels to be fetched again. -/
def forgetLabels : Snapshot := { s with labels := none }

/-- Adds a label, and the snapshot afterwards, whether that succeeds or not. -/
def addLabel (label : String) : Snapshot × Program Unit :=
  (s.forgetLabels, s.update (labelsQuery "add" (.str label)))

/-- Removes a label, and the snapshot afterwards, whether that succeeds or not. -/
def removeLabel (label : String) : Snapshot × Program Unit :=
  (s.forgetLabels, s.update (labelsQuery "remove" (.str label)))

/-- Replaces the labels. On success the snapshot keeps them. -/
def setLabels (labels : List String) : Program Snapshot := do
  s.update (labelsQuery "set" (.arr (labels.map .str)))
  return { s with labels := some labels }

/-! ## People -/

/-- Sets who works on the issue: nobody or one user. -/
def setAssignees (users : List User) : Program Unit :=
  let assign (name : Json) : Program Unit :=
    Program.perform (.put (s.path ++ "/assignee") (.ofMembers [("name", name)]))
  match users with
  | [] => assign .null
  | [user] => assign (.str user.id)
  | _ => .fail (.unsupported .multipleAssignees)

/-- Who closed the issue is not kept. -/
def closedBy : Program (Option User) := .fail (.notImplemented .closedBy)

/-! ## Links -/

/-- The other issue of a stored link and the name of the relationship to it. -/
def readIssueLink (entry : Json) : Except TrackerError (String × String) :=
  match entry.get? "inwardIssue" with
  | some inward => do
    let key ← inward.stringAt (.ofKeys ["key"])
    let relationship ← entry.stringAt (.ofKeys ["type", "inward"])
    return (key, relationship)
  | none => do
    let key ← entry.stringAt (.ofKeys ["outwardIssue", "key"])
    let relationship ← entry.stringAt (.ofKeys ["type", "outward"])
    return (key, relationship)

/-- Fetches the issue that a stored link leads to. -/
def fetchIssueLink (entry : Json) : Program Link := do
  let (key, relationship) ← readIssueLink entry
  match ← Project.issue key with
  | some target => return .issue target relationship
  | none => .fail (.document ("linked issue " ++ key ++ " not found"))

/-- The links to issues that the document lists. -/
def issueLinks : List Json → Program (List Link)
  | [] => return []
  | entry :: rest => do
    let link ← fetchIssueLink entry
    let links ← issueLinks rest
    return link :: links

/-- The links: remote links, then links in comments, then links to issues. -/
def links : Program (List Link) := do
  let remote ← (RemoteLinks.mk s.path).list
  let inComments ← (s.commentStore p).listLinks
  let issues ← issueLinks (s.document.itemsAt (.ofKeys ["fields", "issuelinks"]))
  return remote.map .web ++ inComments.map .web ++ issues

/-- Adds a web link, in a restricted project as a comment. -/
def addWebLink (link : WebLink) : Program Unit :=
  if p.isRestricted then (s.commentStore p).addLink link
  else (RemoteLinks.mk s.path).add link

/-- The document that links this issue with another on one side of a type. -/
def issueLinkDocument (t : LinkType) (d : Direction) (target : String) : Json :=
  match d with
  | .outward => Project.issueLinkDocument t.name s.id target
  | .inward => Project.issueLinkDocument t.name target s.id

/-- Links this issue with another. The relationship decides the type and the side. -/
def addIssueLink (target : Snapshot) (relationship : String) : Program Unit := do
  let types ← Project.linkTypes
  match LinkType.select? types relationship with
  | some (t, d) => Project.createIssueLink (s.issueLinkDocument t d target.id)
  | none => .fail (.noSuchLinkType relationship)

/-- Adds a link. -/
def addLink : Link → Program Unit
  | .web link => s.addWebLink p link
  | .issue target relationship => s.addIssueLink target relationship

/-- Removes a web link wherever it is kept. -/
def removeLink : Link → Program Unit
  | .web link => do
    (RemoteLinks.mk s.path).remove link
    (s.commentStore p).removeLink link
  | .issue _ _ => .fail (.unsupported .removingIssueLinks)

/-! ## Properties -/

/-- Sets a property; an unknown one is left alone. -/
def setProperty (name : String) (value : Json) : Program Unit :=
  match p.codec.encode? name value with
  | none => .warn .unknownProperty (return ())
  | some encoded =>
    let (shaped, warnings) := encoded.finish (s.properties p.codec)
    Program.warnAll warnings (s.update (fieldsQuery encoded.field shaped))

/-- Properties cannot be removed. -/
def removeProperty : Program Unit :=
  .warn .removingProperty (.fail (.notImplemented .removeProperty))

end IssueTracker.Snapshot
