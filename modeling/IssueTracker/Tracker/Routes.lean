import IssueTracker.Json.Outline
import IssueTracker.Json.Pointer
import IssueTracker.Program
import IssueTracker.Tracker
/-!
# Answering requests

How the tracker in memory answers the requests of its interface. Every route gives the
tracker afterwards and the answer; an error may leave a part of the change behind.
-/

namespace IssueTracker.Tracker

open Json (Pointer)

/-- The answer to a change that has nothing to tell. -/
def accepted : Answer := .ok .empty

/-- The answer to a method that a route does not know. -/
def methodNotAllowed (r : Request) : Answer :=
  .error (.status 405 (r.method.name ++ " not allowed on " ++ r.path))

/-- The answer about an issue that is not there. -/
def noIssue (key : String) : Answer := .error (.notFound ("issue " ++ key))

/-- The body of a request, `null` when there is none. -/
def bodyOf (r : Request) : Json := r.body.getD .null

/-! ## Issues -/

/-- What an operation makes of a list of labels. -/
def labelOperation (operation : Json) (labels : List Json) : Except TrackerError (List Json) :=
  match operation.get? "add" with
  | some label => .ok (if labels.contains label then labels else labels ++ [label])
  | none =>
    match operation.get? "remove" with
    | some label => .ok (labels.filter (· != label))
    | none =>
      match operation.get? "set" with
      | some (.arr labels) => .ok labels
      | _ =>
        .error (.status 400 ("unsupported label operation " ++
          Json.braced (Json.listed (Json.outlineMembers (operation.asObject?.getD [])))))

/-- The labels of an issue; what is no list counts as none. -/
def labelsOf (issue : Json) : List Json :=
  (((issue.getD "fields").get? "labels").bind Json.asArray?).getD []

/-- Performs label operations in turn, up to the first that fails. -/
def labelOperations (issue : Json) : List Json → Json × Except TrackerError Unit
  | [] => (issue, .ok ())
  | operation :: rest =>
    let labels := labelsOf issue
    let (labels, result) : List Json × Except TrackerError Unit :=
      match labelOperation operation labels with
      | .ok labels => (labels, .ok ())
      | .error e => (labels, .error e)
    match withField? "labels" (.arr labels) issue with
    | none => (issue, .error .brokenStore)
    | some issue =>
      match result with
      | .ok () => labelOperations issue rest
      | .error e => (issue, .error e)

/-- Sets fields in turn, up to the first that has no place. -/
def setFields (issue : Json) : List (String × Json) → Json × Except TrackerError Unit
  | [] => (issue, .ok ())
  | (field, value) :: rest =>
    match withField? field value issue with
    | some issue => setFields issue rest
    | none => (issue, .error .brokenStore)

/-- What a change makes of an issue: its fields, then its labels, then the time of change. -/
def changeIssue (body issue : Json) : Json × Answer :=
  match setFields issue (((body.get? "fields").bind Json.asObject?).getD []) with
  | (issue, .error e) => (issue, .error e)
  | (issue, .ok ()) =>
    let operations := ((body.pointer (.ofKeys ["update", "labels"])).bind Json.asArray?).getD []
    match labelOperations issue operations with
    | (issue, .error e) => (issue, .error e)
    | (issue, .ok ()) =>
      match withField? "updated" (.str updatedStamp) issue with
      | some issue => (issue, accepted)
      | none => (issue, .error .brokenStore)

/-- One issue. -/
def issueRoute (t : Tracker) (key : String) (r : Request) : Tracker × Answer :=
  match Table.get? key t.issues with
  | none => (t, noIssue key)
  | some issue =>
    match r.method with
    | .get => (t, .ok issue)
    | .put =>
      let (issue, answer) := changeIssue (bodyOf r) issue
      (t.putIssue key issue, answer)
    | _ => (t, methodNotAllowed r)

/-- Who works on an issue. -/
def assigneeRoute (t : Tracker) (key : String) (r : Request) : Tracker × Answer :=
  match Table.get? key t.issues with
  | none => (t, noIssue key)
  | some issue =>
    let assignee : Json :=
      match ((bodyOf r).get? "name").bind Json.asString? with
      | some name => .ofMembers [("name", .str name), ("displayName", .str (displayName name))]
      | none => .null
    match withField? "assignee" assignee issue with
    | some issue => (t.putIssue key issue, accepted)
    | none => (t, .error .brokenStore)

/-! ## Comments -/

/-- A comment with the restriction that a body asks for. -/
def restricted (body comment : Json) : Json :=
  match body.get? "visibility" with
  | some visibility => comment.set "visibility" visibility
  | none => comment

/-- The comments of an issue. -/
def commentsRoute (t : Tracker) (key : String) (r : Request) : Tracker × Answer :=
  if !t.issues.contains key then (t, noIssue key)
  else
    match r.method with
    | .get =>
      let comments := t.commentsOf key
      (t, .ok (.ofMembers [
        ("startAt", .num 0),
        ("total", .num (.int comments.length)),
        ("comments", .arr comments)]))
    | .post =>
      let body := bodyOf r
      let text := ((body.getD "body").asString?).getD ""
      let comment := restricted body (t.newComment t.user text)
      ({ t.putComments key (t.commentsOf key ++ [comment]) with
        nextCommentId := t.nextCommentId + 1 }, .ok comment)
    | _ => (t, methodNotAllowed r)

/-- A comment with the body that a request gives it. -/
def changeComment (body comment : Json) : Json :=
  restricted body ((comment.set "body" (body.getD "body")).set "updated" (.str updatedStamp))

/-- Whether a comment has an id. -/
def hasId (id : String) (comment : Json) : Bool := comment.getD "id" == .str id

/-- One comment of an issue. -/
def commentRoute (t : Tracker) (key id : String) (r : Request) : Tracker × Answer :=
  let comments := t.commentsOf key
  match comments.findIdx? (hasId id) with
  | none => (t, .error (.notFound ("comment " ++ id)))
  | some i =>
    let comment := comments[i]?.getD .null
    match r.method with
    | .get => (t, .ok comment)
    | .put =>
      let comment := changeComment (bodyOf r) comment
      (t.putComments key (comments.set i comment), .ok comment)
    | .delete => (t.putComments key (comments.eraseIdx i), accepted)
    | .post => (t, methodNotAllowed r)

/-! ## Transitions -/

/-- The status of an issue. -/
def statusOf (issue : Json) : String :=
  ((issue.pointer (.ofKeys ["fields", "status", "name"])).bind Json.asString?).getD ""

/-- The transitions from a status. -/
def transitionsFrom (t : Tracker) (status : String) : List Transition :=
  t.workflow.filter (·.source = status)

/-- The document of a transition. -/
def transitionDocument (transition : Transition) : Json :=
  .ofMembers [
    ("id", .str transition.id),
    ("name", .str transition.target),
    ("to", .ofMembers [("name", .str transition.target)])]

/-- An issue with another status, unless there is no place for it. -/
def withStatus? (status : String) (issue : Json) : Option Json := do
  let value ← ((issue.getD "fields").getD "status").set? "name" (.str status)
  withField? "status" value issue

/-- The transitions of an issue. -/
def transitionsRoute (t : Tracker) (key : String) (r : Request) : Tracker × Answer :=
  match Table.get? key t.issues with
  | none => (t, noIssue key)
  | some issue =>
    let available := t.transitionsFrom (statusOf issue)
    match r.method with
    | .get =>
      (t, .ok (.ofMembers [("transitions", .arr (available.map transitionDocument))]))
    | .post =>
      let id :=
        (((bodyOf r).pointer (.ofKeys ["transition", "id"])).bind Json.asString?).getD ""
      match available.find? (·.id = id) with
      | none =>
        (t, .error (.status 400
          ("transition " ++ id ++ " is not valid from " ++ statusOf issue)))
      | some transition =>
        match withStatus? transition.target issue with
        | some issue => (t.putIssue key issue, accepted)
        | none => (t, .error .brokenStore)
    | _ => (t, methodNotAllowed r)

/-! ## Remote links -/

/-- The id that an entry goes by, `null` when it has none. -/
def globalIdOf (entry : Json) : Json := entry.getD "globalId"

/-- The answer that tells an entry's id. -/
def entryIdAnswer (entry : Json) : Answer := .ok (.ofMembers [("id", entry.getD "id")])

/-- Adds an entry, or puts it in the place of the one with its id. -/
def upsertRemoteLink (t : Tracker) (key : String) (entry : Json) : Tracker × Answer :=
  let entries := t.remoteLinksOf key
  match entries.findIdx? (globalIdOf · == globalIdOf entry) with
  | some i =>
    let id := (entries[i]?.getD .null).getD "id"
    match entry.set? "id" id with
    | some entry => (t.putRemoteLinks key (entries.set i entry), entryIdAnswer entry)
    | none => (t, .error .brokenStore)
  | none =>
    let t := { t with nextRemoteLinkId := t.nextRemoteLinkId + 1 }
    match entry.set? "id" (.num (.int (t.nextRemoteLinkId - 1))) with
    | some entry => (t.putRemoteLinks key (entries ++ [entry]), entryIdAnswer entry)
    | none => (t, .error .brokenStore)

/-- Removes the entries of an id. -/
def deleteRemoteLinks (t : Tracker) (key id : String) : Tracker × Answer :=
  let entries := t.remoteLinksOf key
  let kept := entries.filter fun entry => globalIdOf entry != .str id
  if kept.length = entries.length then (t, .error (.notFound ("remote link " ++ id)))
  else (t.putRemoteLinks key kept, accepted)

/-- The remote links of an issue. -/
def remoteLinksRoute (t : Tracker) (key : String) (r : Request) : Tracker × Answer :=
  if !t.issues.contains key then (t, noIssue key)
  else
    match r.method with
    | .get =>
      if t.deniesRemoteLinks then
        (t, .error (.status 401 "not permitted to view remote links"))
      else (t, .ok (.arr (t.remoteLinksOf key)))
    | .post => t.upsertRemoteLink key (bodyOf r)
    | .delete => t.deleteRemoteLinks key ((r.param? "globalId").getD "")
    | .put => (t, methodNotAllowed r)

/-! ## Links between issues -/

/-- An issue with one more stored link, unless there is no place for it. -/
def withIssueLink? (entry issue : Json) : Option Json :=
  let links := ((issue.getD "fields").get? "issuelinks").bind Json.asArray?
  withField? "issuelinks" (.arr (links.getD [] ++ [entry])) issue

/-- Stores a link with an issue. -/
def addIssueLink (t : Tracker) (key : String) (entry : Json) : Tracker × Except TrackerError Unit :=
  match Table.get? key t.issues with
  | none => (t, .error (.notFound ("issue " ++ key)))
  | some issue =>
    match withIssueLink? entry issue with
    | some issue => (t.putIssue key issue, .ok ())
    | none => (t, .error .brokenStore)

/-- The entry of a link, which names the issue at its other end. -/
def issueLinkEntry (type : LinkType) (member other : String) : Json :=
  .ofMembers [("type", type.toJson), (member, .ofMembers [("key", .str other)])]

/-- New links between issues. Both ends store an entry, one after the other. -/
def issueLinkRoute (t : Tracker) (r : Request) : Tracker × Answer :=
  let body := bodyOf r
  let text (keys : List String) := ((body.pointer (.ofKeys keys)).bind Json.asString?).getD ""
  let name := text ["type", "name"]
  let inward := text ["inwardIssue", "key"]
  let outward := text ["outwardIssue", "key"]
  match t.linkTypes.find? (·.name = name) with
  | none => (t, .error (.status 404 ("no link type named " ++ name)))
  | some type =>
    match t.addIssueLink inward (issueLinkEntry type "outwardIssue" outward) with
    | (t, .error e) => (t, .error e)
    | (t, .ok ()) =>
      match t.addIssueLink outward (issueLinkEntry type "inwardIssue" inward) with
      | (t, .error e) => (t, .error e)
      | (t, .ok ()) => (t, accepted)

/-- The link types. -/
def linkTypesDocument (t : Tracker) : Json :=
  .ofMembers [("issueLinkTypes", .arr (t.linkTypes.map LinkType.toJson))]

/-! ## All routes -/

/-- Answers a request whose path has these segments. -/
def route (t : Tracker) (r : Request) : List String → Tracker × Answer
  | ["issue", key] => t.issueRoute key r
  | ["issue", key, "assignee"] =>
    if r.method = .put then t.assigneeRoute key r else (t, noRoute)
  | ["issue", key, "comment"] => t.commentsRoute key r
  | ["issue", key, "comment", id] => t.commentRoute key id r
  | ["issue", key, "transitions"] => t.transitionsRoute key r
  | ["issue", key, "remotelink"] => t.remoteLinksRoute key r
  | ["issueLink"] => if r.method = .post then t.issueLinkRoute r else (t, noRoute)
  | ["issueLinkType"] =>
    if r.method = .get then (t, .ok t.linkTypesDocument) else (t, noRoute)
  | _ => (t, noRoute)
where
  /-- The answer about a path that leads nowhere. -/
  noRoute : Answer := .error (.notFound ("route " ++ r.line))

/-- Answers a request, after writing it down. -/
def respond (t : Tracker) (r : Request) : Tracker × Answer :=
  route { t with log := t.log ++ [r.line] } r (Text.split '/' r.path)

end IssueTracker.Tracker
