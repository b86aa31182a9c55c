import IssueTracker.Proofs.Operation
import IssueTracker.Proofs.Sends
/-!
# What actions ask for

Every request that an action may make, in one list: whatever is answered, an action that writes
writes one of a few documents to one of a few places. Statements about what is written, and what
it makes of a tracker, are read off the list.
-/

namespace IssueTracker

/-! ## Requests of actions -/

open Snapshot (fieldsQuery labelsQuery)

/-- The requests that an action may make. -/
inductive Action.Asks (p : Project) (s : Snapshot) : Action → Request → Prop
  | read {a : Action} {r : Request} (hmethod : r.method = .get) (hbody : r.body = none) : Asks p s a r
  | title {text : String} (hrole : p.visibilityRole = none) :
      Asks p s (.setTitle text) (.put s.path (fieldsQuery "summary" (.str text)))
  | description {text : String} (hrole : p.visibilityRole = none) :
      Asks p s (.setBody text) (.put s.path (fieldsQuery "description" (.str text)))
  | newComment {text : String} :
      Asks p s (.addComment text) (.post (s.commentStore p).path ((s.commentStore p).bodyDocument text))
  | comment {id text : String} :
      Asks p s (.updateComment id text)
        (.put ((s.commentStore p).commentPath id) ((s.commentStore p).bodyDocument text))
  | noComment {id : String} :
      Asks p s (.removeComment id)
        ((Request.delete ((s.commentStore p).commentPath id)).onStatus 404 CommentStore.alreadyDeleted)
  | transition {target : State} {id : String} :
      Asks p s (.setState target) (.post (s.path ++ "/transitions") (Workflow.Drive.transitionBody id))
  | labels {a : Action} {operation : String} {operand : Json} (h : a.labelChange? = some (operation, operand)) :
      Asks p s a (.put s.path (labelsQuery operation operand))
  | assignee {users : List User} {name : Json} :
      Asks p s (.setAssignees users) (.put (s.path ++ "/assignee") (.ofMembers [("name", name)]))
  | linkComment {l : WebLink} (hrole : p.visibilityRole ≠ none) :
      Asks p s (.addLink (.web l))
        (.post (s.commentStore p).path ((s.commentStore p).bodyDocument (WebLink.CommentForm.render l)))
  | remoteLink {l : WebLink} (hrole : p.visibilityRole = none) :
      Asks p s (.addLink (.web l)) (.post (RemoteLinks.mk s.path).path (WebLink.EntryForm.render l))
  | issueLink {target : Snapshot} {relationship : String} {t : LinkType} {d : Direction} :
      Asks p s (.addLink (.issue target relationship)) (.post "issueLink" (s.issueLinkDocument t d target.id))
  | noRemoteLink {l : WebLink} {id : String} :
      Asks p s (.removeLink (.web l))
        (((Request.delete (RemoteLinks.mk s.path).path).param "globalId" id).onStatus 404 CommentStore.alreadyDeleted)
  | noLinkComment {l : WebLink} {id : String} :
      Asks p s (.removeLink (.web l))
        ((Request.delete ((s.commentStore p).commentPath id)).onStatus 404 CommentStore.alreadyDeleted)
  | property {name : String} {value : Json} {m : FieldMapping} (hm : m ∈ p.codec) {shaped : Json} :
      Asks p s (.setProperty name value) (.put s.path (fieldsQuery m.field shaped))

namespace Action

variable {p : Project} {s : Snapshot}

theorem sends_change {a : Action} {operation : String} {operand : Json}
    (h : a.labelChange? = some (operation, operand)) :
    (s.update (labelsQuery operation operand)).Sends (a.Asks p s) :=
  Program.sends_perform (.labels h)

theorem sends_remoteList (a : Action) : (RemoteLinks.mk s.path).list.Sends (a.Asks p s) :=
  RemoteLinks.sends_list_of (.read rfl rfl)

theorem sends_commentList (a : Action) : (s.commentStore p).list.Sends (a.Asks p s) :=
  CommentStore.sends_list_of (.read rfl rfl)

theorem sends_links : (s.links p).Sends (Asks p s links) := by
  apply Program.sends_bind (sends_remoteList _)
  intro remote
  apply Program.sends_bind (CommentStore.sends_listLinks_of (sends_commentList _))
  intro inComments
  apply Program.sends_bind
  · exact Snapshot.sends_issueLinks_of (fun key => Project.sends_issue_of (.read rfl rfl)) _
  · exact fun _ => trivial

/-- Where web links are added depends on the project. -/
theorem sends_addLink (link : Link) : (s.addLink p link).Sends (Asks p s (addLink link)) := by
  cases link with
  | web l =>
    unfold Snapshot.addLink Snapshot.addWebLink Project.isRestricted
    dsimp only
    split
    · rename_i hrole
      have hrole : p.visibilityRole ≠ none := Option.isSome_iff_ne_none.1 hrole
      exact CommentStore.sends_addLink_of (sends_commentList _) (CommentStore.sends_create_of (.linkComment hrole))
    · rename_i hrole
      exact Program.sends_perform (.remoteLink (by simpa using hrole))
  | issue target relationship =>
    apply Program.sends_bind (Project.sends_linkTypes_of (.read rfl rfl))
    intro types
    split
    · exact Program.sends_perform .issueLink
    · trivial

theorem sends_removeLink (link : Link) : (s.removeLink p link).Sends (Asks p s (removeLink link)) := by
  cases link with
  | web l =>
    apply Program.sends_bind
    · exact RemoteLinks.sends_remove_of (sends_remoteList _) (fun _ => Program.sends_perform .noRemoteLink) l
    · intro _
      exact CommentStore.sends_removeLink_of (sends_commentList _) (fun _ => Program.sends_perform .noLinkComment) l
  | issue target relationship => trivial

/-- A property is written to the field of its mapping. -/
theorem sends_setProperty (name : String) (value : Json) :
    (s.setProperty p name value).Sends (Asks p s (setProperty name value)) := by
  unfold Snapshot.setProperty
  split
  · trivial
  · rename_i encoded hencoded
    obtain ⟨m, hfind, rfl⟩ := Option.map_eq_some_iff.1 hencoded
    apply Program.sends_warnAll
    exact Program.sends_perform (.property (List.mem_of_find?_eq_some hfind))

theorem sends_setAssignees (users : List User) :
    (s.setAssignees users).Sends (Asks p s (setAssignees users)) := by
  unfold Snapshot.setAssignees
  dsimp only
  split
  · exact Program.sends_perform .assignee
  · exact Program.sends_perform .assignee
  · trivial

/-- Whatever is answered, an action only makes the requests of the list. -/
theorem sends_asks (p : Project) (s : Snapshot) (a : Action) : (a.program p s).Sends (a.Asks p s) := by
  cases a with
  | setTitle title =>
    unfold program Snapshot.setTitle Project.isRestricted
    split
    · trivial
    · rename_i hrole
      exact Program.sends_perform (.title (by simpa using hrole))
  | setBody body =>
    unfold program Snapshot.setBody Project.isRestricted
    split
    · trivial
    · rename_i hrole
      exact Program.sends_perform (.description (by simpa using hrole))
  | comments => exact sends_commentList _
  | addComment body => exact CommentStore.sends_create_of .newComment
  | updateComment id body => exact CommentStore.sends_update_of .comment
  | removeComment id => exact Program.sends_perform .noComment
  | setState target => exact Workflow.Drive.sends_toProgram (.read rfl rfl) (fun _ => .transition) _
  | labels =>
    unfold program Snapshot.fetchLabels
    split
    · trivial
    · exact Program.sends_bind (Program.sends_execute (.read rfl rfl)) fun _ => trivial
  | addLabel label => exact sends_change rfl
  | removeLabel label => exact sends_change rfl
  | setLabels labels => exact Program.sends_bind (sends_change rfl) fun _ => trivial
  | setAssignees users => exact sends_setAssignees users
  | closedBy => trivial
  | links => exact sends_links
  | addLink link => exact sends_addLink link
  | removeLink link => exact sends_removeLink link
  | setProperty name value => exact sends_setProperty name value
  | removeProperty => trivial

end Action

end IssueTracker
