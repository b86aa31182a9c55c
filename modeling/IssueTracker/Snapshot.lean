import IssueTracker.Document
import IssueTracker.Json.Feed
import IssueTracker.Json.Without
import IssueTracker.Property
import IssueTracker.User
/-!
# Snapshots

An issue as it was when its document was fetched. What is read comes from that document; the
labels alone are kept apart, so that they can be forgotten and fetched again. Two snapshots
are equal when their documents are, but for what changes without meaning.
-/

namespace IssueTracker

open Json (Pointer)

/-- An issue at a point in time. -/
structure Snapshot where
  document : Json
  id : String
  title : String
  status : String
  /-- Nothing when they have to be fetched. -/
  labels : Option (List String)

namespace Snapshot

/-- The labels that a document lists. -/
def labelsOf (document : Json) : List String :=
  (document.itemsAt (.ofKeys ["fields", "labels"])).filterMap Json.asString?

/-- The snapshot of a document, which needs a key, a title and a status. -/
def ofJson (document : Json) : Except TrackerError Snapshot := do
  let id ← document.stringAt (.ofKeys ["key"])
  let title ← document.stringAt (.ofKeys ["fields", "summary"])
  let status ← document.stringAt (.ofKeys ["fields", "status", "name"])
  return ⟨document, id, Text.trim title, status, some (labelsOf document)⟩

/-! ## Equality -/

/-- The members that change without meaning. -/
def volatilePaths : List String := ["fields.customfield_11700"]

/-- The document without what changes without meaning. -/
def core (s : Snapshot) : Json := s.document.withoutPaths volatilePaths

instance : BEq Snapshot := ⟨fun a b => a.core == b.core⟩

/-- What a hasher is fed for a snapshot. -/
def feed (s : Snapshot) : List Json.Write := s.core.feed

/-! ## Reading -/

/-- The path of the issue. -/
def path (s : Snapshot) : String := "issue/" ++ s.id

/-- Who reported the issue. -/
def author (s : Snapshot) : Except TrackerError User := do
  let id ← s.document.stringAt (.ofKeys ["fields", "creator", "key"])
  let username ← s.document.stringAt (.ofKeys ["fields", "creator", "name"])
  let fullName ← s.document.stringAt (.ofKeys ["fields", "creator", "displayName"])
  return ⟨id, username, fullName⟩

/-- The description, empty when there is none. -/
def body (s : Snapshot) : String :=
  (s.document.stringAt? (.ofKeys ["fields", "description"])).getD ""

/-- When the issue was reported. -/
def createdAt (s : Snapshot) : Except TrackerError Timestamp :=
  s.document.timestampAt (.ofKeys ["fields", "created"])

/-- When the issue was last changed. -/
def updatedAt (s : Snapshot) : Except TrackerError Timestamp :=
  s.document.timestampAt (.ofKeys ["fields", "updated"])

/-- The state that the status stands for. -/
def state (s : Snapshot) : State := .ofStatus s.status

/-- The name of the resolution. -/
def resolution (s : Snapshot) : Option String :=
  s.document.stringAt? (.ofKeys ["fields", "resolution", "name"])

/-- The resolutions that count as fixed. -/
def fixedResolutions : List String := ["Fixed", "Delivered"]

/-- Whether the issue is done, with a resolution that counts as fixed. -/
def isFixed (s : Snapshot) : Bool :=
  s.state != .opened && s.resolution.any fixedResolutions.contains

/-- Who works on the issue: nobody or one user. -/
def assignees (s : Snapshot) : List User :=
  match s.document.pointer (.ofKeys ["fields", "assignee"]) with
  | none => []
  | some assignee =>
    match (assignee.get? "name").bind Json.asString? with
    | none => []
    | some name =>
      [.ofAccount name (((assignee.get? "displayName").bind Json.asString?).getD name)]

/-- The properties that the issue's fields hold. -/
def properties (codec : PropertyCodec) (s : Snapshot) : Table Json :=
  match (s.document.get? "fields").bind Json.asObject? with
  | none => []
  | some fields =>
    Table.ofEntries (fields.filterMap fun (field, value) => codec.decode? field value)

end Snapshot

end IssueTracker
