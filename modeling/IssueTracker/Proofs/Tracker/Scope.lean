import IssueTracker.Proofs.Sends
import IssueTracker.Proofs.Tracker.Effect
import IssueTracker.Proofs.Tracker.Fields
/-!
# Scopes

The part of a tracker that something may change: single fields of issues, and the comments and remote links
of issues. Everything outside the scope stays as it is, however the change ends. A request stays in a scope
when every tracker that answers it does, and then so does a program of such requests.
-/

namespace IssueTracker

namespace Tracker

/-! ## Issues -/

/-- Documents of an issue that differ in no more than some fields. -/
structure SameBut (may : String → Prop) (issue changed : Json) : Prop where
  member : ∀ key, key ≠ "fields" → changed.get? key = issue.get? key
  field : ∀ field, ¬ may field → fieldOf? changed field = fieldOf? issue field
  untouched : (∀ field, ¬ may field) → changed = issue

namespace SameBut

variable {may : String → Prop} {issue changed again value : Json} {field : String}

theorem refl (issue : Json) : SameBut may issue issue := ⟨fun _ _ => rfl, fun _ _ => rfl, fun _ => rfl⟩

theorem trans (h : SameBut may issue changed) (h' : SameBut may changed again) : SameBut may issue again :=
  ⟨fun key hkey => (h'.member key hkey).trans (h.member key hkey),
    fun field hfield => (h'.field field hfield).trans (h.field field hfield),
    fun hnone => (h'.untouched hnone).trans (h.untouched hnone)⟩

theorem setting (hfield : may field) : SettingKeeps (SameBut may issue) field value := by
  intro changed again h hset
  refine h.trans ⟨fun key hkey => get?_withField? hset hkey, fun other hother => ?_, fun hnone => ?_⟩
  · have hne : other ≠ field := fun heq => hother (heq ▸ hfield)
    rw [fieldOf?_withField? hset, if_neg hne]
  · exact absurd hfield (hnone field)

theorem withField? (hfield : may field) (hset : withField? field value issue = some changed) :
    SameBut may issue changed :=
  setting hfield issue changed (refl issue) hset

/-- A change of one field touches this field and the time of change. -/
theorem fieldsQuery (hfield : may field) (hupdated : may "updated") (value : Json) :
    SameBut may issue (changeIssue (Snapshot.fieldsQuery field value) issue).1 := by
  refine changeIssue_keeps_of (refl issue) (fun pair hpair => ?_) (.inl ?_) fun _ => setting hupdated
  · rw [Snapshot.fields_fieldsQuery] at hpair
    obtain rfl := List.mem_singleton.1 hpair
    exact setting hfield
  · simp (disch := decide) [Snapshot.fieldsQuery, Json.pointer_ofKeys, Json.follow_cons, Json.get?_ofMembers]

/-- A change of the labels touches them and the time of change. -/
theorem labelsQuery (hlabels : may "labels") (hupdated : may "updated") (operation : String) (operand : Json) :
    SameBut may issue (changeIssue (Snapshot.labelsQuery operation operand) issue).1 := by
  refine changeIssue_keeps_of (refl issue) (fun pair hpair => ?_) (.inr fun _ => setting hlabels)
    fun _ => setting hupdated
  have hnone : (Snapshot.labelsQuery operation operand).get? "fields" = none := by
    simp [Snapshot.labelsQuery, Json.get?_ofMembers]
  rw [hnone] at hpair
  cases hpair

end SameBut

/-! ## Trackers -/

/-- A part of a tracker: fields of issues, each with the key of its issue, and the keys of the issues whose
comments or whose remote links belong to it. -/
structure Scope where
  fields : List (String × String) := []
  comments : List String := []
  remoteLinks : List String := []

namespace Scope

/-- Trackers that differ in no more than the scope, their counters and their logs. -/
structure Covers (c : Scope) (t t' : Tracker) : Prop where
  user : t'.user = t.user
  workflow : t'.workflow = t.workflow
  linkTypes : t'.linkTypes = t.linkTypes
  denial : t'.deniesRemoteLinks = t.deniesRemoteLinks
  issues : ∀ key, Option.Rel (SameBut fun field => (key, field) ∈ c.fields)
    (Table.get? key t.issues) (Table.get? key t'.issues)
  comments : ∀ key ∉ c.comments, t'.commentsOf key = t.commentsOf key
  remoteLinks : ∀ key ∉ c.remoteLinks, t'.remoteLinksOf key = t.remoteLinksOf key

variable {c : Scope} {t t' t'' : Tracker} {key : String} {issue changed : Json} {r : Request}

namespace Covers

theorem of_unlogged (h : t'.unlogged = t.unlogged) : c.Covers t t' := by
  have hissues : t'.issues = t.issues := (congrArg Tracker.issues h :)
  refine ⟨(congrArg Tracker.user h :), (congrArg Tracker.workflow h :), (congrArg Tracker.linkTypes h :),
    (congrArg Tracker.deniesRemoteLinks h :), fun key => ?_, fun key _ => commentsOf_of_unlogged h key,
    fun key _ => remoteLinksOf_of_unlogged h key⟩
  rw [hissues]
  cases Table.get? key t.issues with
  | none => exact .none
  | some issue => exact .some (.refl issue)

theorem refl (t : Tracker) : c.Covers t t := of_unlogged rfl

theorem noted (t : Tracker) (r : Request) : c.Covers t (t.noted r) := of_unlogged rfl

theorem trans (h : c.Covers t t') (h' : c.Covers t' t'') : c.Covers t t'' where
  user := h'.user.trans h.user
  workflow := h'.workflow.trans h.workflow
  linkTypes := h'.linkTypes.trans h.linkTypes
  denial := h'.denial.trans h.denial
  issues key := by
    have hfirst := h.issues key
    have hsecond := h'.issues key
    generalize Table.get? key t.issues = a, Table.get? key t'.issues = b, Table.get? key t''.issues = d at *
    cases hfirst with
    | none => exact hsecond
    | some hsame =>
      cases hsecond with
      | some hsame' => exact .some (hsame.trans hsame')
  comments key hkey := (h'.comments key hkey).trans (h.comments key hkey)
  remoteLinks key hkey := (h'.remoteLinks key hkey).trans (h.remoteLinks key hkey)

/-- An issue that was there is still there. -/
theorem exists_issue (h : c.Covers t t') (hissue : Table.get? key t.issues = some issue) :
    ∃ changed, Table.get? key t'.issues = some changed ∧
      SameBut (fun field => (key, field) ∈ c.fields) issue changed := by
  have hrel := h.issues key
  rw [hissue] at hrel
  generalize hchanged : Table.get? key t'.issues = found at hrel
  cases hrel with
  | some hsame => exact ⟨_, rfl, hsame⟩

theorem putIssue (hissue : Table.get? key t.issues = some issue)
    (h : SameBut (fun field => (key, field) ∈ c.fields) issue changed) : c.Covers t (t.putIssue key changed) := by
  refine ⟨rfl, rfl, rfl, rfl, fun other => ?_, fun _ _ => rfl, fun _ _ => rfl⟩
  rw [Tracker.putIssue, Table.get?_insert]
  split
  · rename_i heq
    subst other
    rw [hissue]
    exact .some h
  · exact (refl t).issues other

theorem putComments (hkey : key ∈ c.comments) (comments : List Json) : c.Covers t (t.putComments key comments) := by
  refine ⟨rfl, rfl, rfl, rfl, (refl t).issues, fun other hother => ?_, fun _ _ => rfl⟩
  have hne : other ≠ key := fun heq => hother (heq ▸ hkey)
  rw [commentsOf, commentsOf, Tracker.putComments, Table.get?_insert_ne hne]

theorem putRemoteLinks (hkey : key ∈ c.remoteLinks) (entries : List Json) :
    c.Covers t (t.putRemoteLinks key entries) := by
  refine ⟨rfl, rfl, rfl, rfl, (refl t).issues, fun _ _ => rfl, fun other hother => ?_⟩
  have hne : other ≠ key := fun heq => hother (heq ▸ hkey)
  rw [remoteLinksOf, remoteLinksOf, Tracker.putRemoteLinks, Table.get?_insert_ne hne]

/-- What numbers the next comment and the next entry is in every scope. -/
theorem counted (h : c.Covers t t') (nextCommentId nextRemoteLinkId : Nat) :
    c.Covers t { t' with nextCommentId, nextRemoteLinkId } :=
  ⟨h.user, h.workflow, h.linkTypes, h.denial, h.issues, h.comments, h.remoteLinks⟩

end Covers

/-! ## Routes -/

theorem covers_issueRoute
    (h : ∀ issue, SameBut (fun field => (key, field) ∈ c.fields) issue (changeIssue (bodyOf r) issue).1) :
    c.Covers t (t.issueRoute key r).1 := by
  unfold issueRoute
  split
  · exact .refl t
  · rename_i issue hissue
    split
    · exact .refl t
    · exact .putIssue hissue (h issue)
    · exact .refl t

theorem covers_assigneeRoute (h : (key, "assignee") ∈ c.fields) : c.Covers t (t.assigneeRoute key r).1 := by
  unfold assigneeRoute
  split
  · exact .refl t
  · rename_i issue hissue
    dsimp only
    split
    · rename_i changed hset
      exact .putIssue hissue (.withField? h hset)
    · exact .refl t

theorem covers_transitionsRoute (h : (key, "status") ∈ c.fields) : c.Covers t (t.transitionsRoute key r).1 := by
  unfold transitionsRoute
  split
  · exact .refl t
  · rename_i issue hissue
    dsimp only
    split
    · exact .refl t
    · split
      · exact .refl t
      · split
        · rename_i changed hset
          obtain ⟨value, -, hset⟩ := Option.bind_eq_some_iff.1 hset
          exact .putIssue hissue (.withField? h hset)
        · exact .refl t
    · exact .refl t

theorem covers_commentsRoute (h : key ∈ c.comments) : c.Covers t (t.commentsRoute key r).1 := by
  unfold commentsRoute
  split
  · exact .refl t
  · split
    · exact .refl t
    · exact (Covers.putComments h _).counted _ _
    · exact .refl t

theorem covers_commentRoute (h : key ∈ c.comments) (id : String) : c.Covers t (t.commentRoute key id r).1 := by
  unfold commentRoute
  dsimp only
  split
  · exact .refl t
  · split
    · exact .refl t
    · exact .putComments h _
    · exact .putComments h _
    · exact .refl t

theorem covers_remoteLinksRoute (h : key ∈ c.remoteLinks) : c.Covers t (t.remoteLinksRoute key r).1 := by
  unfold remoteLinksRoute
  split
  · exact .refl t
  · split
    · split <;> exact .refl t
    · unfold upsertRemoteLink
      dsimp only
      split
      · split
        · exact .putRemoteLinks h _
        · exact .refl t
      · split
        · exact (Covers.putRemoteLinks h _).counted t.nextCommentId _
        · exact (Covers.refl t).counted t.nextCommentId _
    · unfold deleteRemoteLinks
      dsimp only
      split
      · exact .refl t
      · exact .putRemoteLinks h _
    · exact .refl t

theorem covers_issueLinkRoute
    (h : ∀ key ∈ [linkEnd r "inwardIssue", linkEnd r "outwardIssue"], (key, "issuelinks") ∈ c.fields) :
    c.Covers t (t.issueLinkRoute r).1 :=
  issueLinkRoute_keeps_at (P := c.Covers t) (.refl t) fun _ key _ _ _ _ _ hkey hcovers hissue hset =>
    hcovers.trans (.putIssue hissue (.withField? (h key hkey) hset))

/-! ## Requests -/

/-- Every tracker that answers the request stays as it is outside the scope. -/
def Bounds (c : Scope) (r : Request) : Prop := ∀ t, c.Covers t (t.respond r).1

theorem bounds_read (h : r.method = .get) : c.Bounds r := fun t => .of_unlogged (t.unlogged_respond r h)

section Parts

variable {s : Snapshot} (hs : '/' ∉ s.id.toList)
include hs

theorem bounds_issue (hr : r.path = s.path)
    (h : ∀ issue, SameBut (fun field => (s.id, field) ∈ c.fields) issue (changeIssue (bodyOf r) issue).1) :
    c.Bounds r := by
  intro t
  rw [s.respond_issue hs t hr]
  exact (Covers.noted t r).trans (covers_issueRoute h)

theorem bounds_assignee (hr : r.path = s.path ++ "/assignee") (hmethod : r.method = .put)
    (h : (s.id, "assignee") ∈ c.fields) : c.Bounds r := by
  intro t
  rw [s.respond_assignee hs t hr hmethod]
  exact (Covers.noted t r).trans (covers_assigneeRoute h)

theorem bounds_transitions (hr : r.path = s.path ++ "/transitions") (h : (s.id, "status") ∈ c.fields) :
    c.Bounds r := by
  intro t
  rw [s.respond_transitions hs t hr]
  exact (Covers.noted t r).trans (covers_transitionsRoute h)

theorem bounds_remoteLinks (hr : r.path = s.path ++ "/remotelink") (h : s.id ∈ c.remoteLinks) : c.Bounds r := by
  intro t
  rw [s.respond_remoteLinks hs t hr]
  exact (Covers.noted t r).trans (covers_remoteLinksRoute h)

theorem bounds_comments (hr : r.path = s.path ++ "/comment") (h : s.id ∈ c.comments) : c.Bounds r := by
  intro t
  rw [s.respond_comments hs t hr]
  exact (Covers.noted t r).trans (covers_commentsRoute h)

/-- An id with slashes leads nowhere. -/
theorem bounds_comment {role : Option String} {id : String} (hr : r.path = CommentStore.commentPath ⟨s.path, role⟩ id)
    (h : s.id ∈ c.comments) : c.Bounds r := by
  intro t
  have hsplit := s.split_commentPath hs role id
  rw [← hr] at hsplit
  rw [respond_eq t r hsplit]
  refine (Covers.noted t r).trans ?_
  match Text.split '/' id with
  | [] => exact covers_commentsRoute h
  | [id] => exact covers_commentRoute h id
  | _ :: _ :: _ => exact .refl _

end Parts

theorem bounds_issueLink (hr : r.path = "issueLink") (hmethod : r.method = .post)
    (h : ∀ key ∈ [linkEnd r "inwardIssue", linkEnd r "outwardIssue"], (key, "issuelinks") ∈ c.fields) :
    c.Bounds r := by
  intro t
  rw [respond_issueLink t r hr hmethod]
  exact (Covers.noted t r).trans (covers_issueLinkRoute h)

end Scope

end Tracker

/-- A program of requests that stay in a scope stays in it. -/
theorem World.covers_after {α : Type} {c : Tracker.Scope} {p : Program α} (hp : p.Sends c.Bounds) (w : World) :
    c.Covers w.tracker (w.after p).tracker :=
  after_preserves (I := c.Covers w.tracker) (fun t _ hcovers hr => hcovers.trans (hr t)) hp (.refl _)

end IssueTracker
