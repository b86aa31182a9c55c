import IssueTracker.Snapshot
import IssueTracker.Tracker.Routes
/-!
# Which route answers

The requests about an issue reach the routes of that issue, whatever its key, as long as a
path can hold the key.
-/

namespace IssueTracker

namespace Tracker

/-- The tracker after a request was written down. -/
def noted (t : Tracker) (r : Request) : Tracker := { t with log := t.log ++ [r.line] }

variable (t : Tracker) (r : Request)

@[simp] theorem noted_issues : (t.noted r).issues = t.issues := rfl
@[simp] theorem noted_workflow : (t.noted r).workflow = t.workflow := rfl
@[simp] theorem noted_deniesRemoteLinks : (t.noted r).deniesRemoteLinks = t.deniesRemoteLinks := rfl
@[simp] theorem commentsOf_noted (key : String) : (t.noted r).commentsOf key = t.commentsOf key := rfl
@[simp] theorem remoteLinksOf_noted (key : String) :
    (t.noted r).remoteLinksOf key = t.remoteLinksOf key := rfl

theorem respond_eq {segments : List String} (h : Text.split '/' r.path = segments) :
    t.respond r = (t.noted r).route r segments := by
  rw [respond, h]; rfl

theorem respond_issueLink (hr : r.path = "issueLink") (hmethod : r.method = .post) :
    t.respond r = (t.noted r).issueLinkRoute r := by
  have h : Text.split '/' r.path = ["issueLink"] := by
    rw [hr]
    decide
  rw [respond_eq t r h, route, if_pos hmethod]

end Tracker

namespace Snapshot

/-- The issue of a snapshot is on a tracker, under a key that a path can hold. -/
structure On (s : Snapshot) (t : Tracker) : Prop where
  slashFree : '/' ∉ s.id.toList
  known : Table.contains s.id t.issues = true

variable {s : Snapshot} (hs : '/' ∉ s.id.toList)
include hs

/-- The segments of the issue's path. -/
theorem split_path : Text.split '/' s.path = ["issue", s.id] := by
  have h : s.path.toList = "issue".toList ++ '/' :: s.id.toList := by
    simp [path, String.toList_append]
  rw [Text.split, h, Text.splitOn_append (by simp), Text.splitOn_of_notMem hs]
  simp

/-- The segments of a path below the issue's. -/
theorem split_path_append {sub : String} (rest : List Char) (hsub : sub.toList = '/' :: rest) :
    Text.split '/' (s.path ++ sub) = "issue" :: s.id :: (Text.splitOn '/' rest).map String.ofList := by
  -- Without a slash the id is one segment.
  have h : (s.path ++ sub).toList = "issue".toList ++ '/' :: (s.id.toList ++ '/' :: rest) := by
    simp [path, String.toList_append, hsub]
  rw [Text.split, h, Text.splitOn_append (by simp), Text.splitOn_append hs]
  simp

/-- The segments of the path of a part of the issue. -/
theorem split_part {sub name : String} (hsub : sub.toList = '/' :: name.toList) (hname : '/' ∉ name.toList) :
    Text.split '/' (s.path ++ sub) = ["issue", s.id, name] := by
  rw [split_path_append hs name.toList hsub, Text.splitOn_of_notMem hname]
  simp

variable (t : Tracker) {r : Request}

theorem respond_issue (hr : r.path = s.path) : t.respond r = (t.noted r).issueRoute s.id r := by
  have h : Text.split '/' r.path = ["issue", s.id] := by
    rw [hr]
    exact split_path hs
  rw [Tracker.respond_eq t r h]; rfl

/-- The request for a part of the issue reaches the issue's routes. -/
theorem respond_part {sub : String} (name : String) (hr : r.path = s.path ++ sub)
    (hsub : sub.toList = '/' :: name.toList) (hname : '/' ∉ name.toList) :
    t.respond r = (t.noted r).route r ["issue", s.id, name] := by
  apply Tracker.respond_eq
  rw [hr]
  exact split_part hs hsub hname

theorem respond_transitions (hr : r.path = s.path ++ "/transitions") :
    t.respond r = (t.noted r).transitionsRoute s.id r :=
  (respond_part hs t "transitions" hr (by simp) (by decide)).trans rfl

theorem respond_remoteLinks (hr : r.path = s.path ++ "/remotelink") :
    t.respond r = (t.noted r).remoteLinksRoute s.id r :=
  (respond_part hs t "remotelink" hr (by simp) (by decide)).trans rfl

theorem respond_assignee (hr : r.path = s.path ++ "/assignee") (hmethod : r.method = .put) :
    t.respond r = (t.noted r).assigneeRoute s.id r := by
  rw [respond_part hs t "assignee" hr (by simp) (by decide), Tracker.route, if_pos hmethod]

theorem respond_comments (hr : r.path = s.path ++ "/comment") :
    t.respond r = (t.noted r).commentsRoute s.id r :=
  (respond_part hs t "comment" hr (by simp) (by decide)).trans rfl

end Snapshot

/-! ## A tracker with one issue -/

/-- A tracker with one issue and a workflow. -/
def Tracker.ofIssue (key status : String) (graph : List Transition) : Tracker :=
  { (Tracker.empty "duke").addIssue key "Title" status with workflow := graph }

/-- The snapshot of an issue of such a tracker. -/
def Snapshot.ofIssue (key status : String) : Snapshot :=
  ⟨(Tracker.empty "duke").newIssue key "Title" status, key, "Title", status, some []⟩

end IssueTracker
