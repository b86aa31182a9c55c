import IssueTracker.Proofs.Routing
import IssueTracker.Proofs.World
import IssueTracker.Snapshot.Operations
/-!
# What a program asks for

A program only sends requests of some kind, whatever is answered. What such requests leave alone
the whole program leaves alone: programs about the comments of an issue keep all that is not
comments, and programs about its remote links keep all that is not remote links.
-/

namespace IssueTracker

variable {α β : Type}

namespace Program

/-- Every request that a program may make is of a kind. -/
def Sends (Q : Request → Prop) : Program α → Prop
  | .done _ => True
  | .warn _ rest => Sends Q rest
  | .call r next => Q r ∧ ∀ answer, Sends Q (next answer)
  | .consult next => ∀ memory, Sends Q (next memory)
  | .remember _ rest => Sends Q rest

variable {Q : Request → Prop}

theorem sends_bind {p : Program α} {f : α → Program β} (hp : Sends Q p) (hf : ∀ a, Sends Q (f a)) :
    Sends Q (p >>= f) := by
  induction p with
  | done r =>
    cases r with
    | ok a => exact hf a
    | error e => trivial
  | warn w rest ih => exact ih hp
  | call r next ih => exact ⟨hp.1, fun answer => ih answer (hp.2 answer)⟩
  | consult next ih => exact fun memory => ih memory (hp memory)
  | remember types rest ih => exact ih hp

theorem sends_warnAll {ws : List Warning} {p : Program α} (hp : Sends Q p) : Sends Q (warnAll ws p) := by
  induction ws with
  | nil => exact hp
  | cons w ws ih => exact ih

theorem sends_any (p : Program α) : p.Sends fun _ => True := by
  induction p with
  | done r => trivial
  | warn w rest ih => exact ih
  | call r next ih => exact ⟨trivial, ih⟩
  | consult next ih => exact ih
  | remember types rest ih => exact ih

theorem Sends.mono {Q' : Request → Prop} {p : Program α} (h : p.Sends Q) (hQ : ∀ r, Q r → Q' r) : p.Sends Q' := by
  induction p with
  | done r => trivial
  | warn w rest ih => exact ih h
  | call r next ih => exact ⟨hQ r h.1, fun answer => ih answer (h.2 answer)⟩
  | consult next ih => exact fun memory => ih memory (h memory)
  | remember types rest ih => exact ih h

theorem sends_execute {r : Request} (h : Q r) : Sends Q (execute r) := ⟨h, fun _ => trivial⟩

theorem sends_perform {r : Request} (h : Q r) : Sends Q (perform r) := ⟨h, fun _ => trivial⟩

end Program

/-- The requests that a program does make are of the kinds that it may make, whoever answers. -/
theorem Program.calls_of_sends {σ : Type} {Q : Request → Prop} (respond : Responder σ) {p : Program α}
    (hp : p.Sends Q) (st : σ) (memory : Option (List LinkType)) : ∀ r ∈ (run respond p st memory).calls, Q r := by
  induction p generalizing st memory with
  | done r => simp [run]
  | warn x rest ih => exact ih hp st memory
  | call r next ih =>
    intro r' hr'
    rcases List.mem_cons.1 hr' with rfl | hr'
    · exact hp.1
    · exact ih _ (hp.2 _) (respond st r).1 memory r' hr'
  | consult next ih => exact ih memory (hp memory) st memory
  | remember types rest ih => exact ih hp st (some types)

theorem World.calls_of_sends {Q : Request → Prop} {p : Program α} (hp : p.Sends Q) (w : World) :
    ∀ r ∈ w.calls p, Q r :=
  Program.calls_of_sends Tracker.respond hp w.tracker w.memory

/-- What every request of a kind keeps true, a program of such requests keeps true. -/
theorem World.after_preserves {I : Tracker → Prop} {Q : Request → Prop}
    (hI : ∀ t r, I t → Q r → I (t.respond r).1) {p : Program α} (hp : p.Sends Q) {w : World} (hw : I w.tracker) :
    I (w.after p).tracker := by
  obtain ⟨t, memory⟩ := w
  simp only [after, run]
  -- The tracker changes with every request, so it is not fixed in the induction.
  induction p generalizing t memory with
  | done r => exact hw
  | warn x rest ih => exact ih hp t memory hw
  | call r next ih => exact ih _ (hp.2 _) (t.respond r).1 memory (hI t r hw hp.1)
  | consult next ih => exact ih memory (hp memory) t memory hw
  | remember types rest ih => exact ih hp t (some types) hw

/-- What no request of a kind changes, a program of such requests does not change. -/
theorem World.after_keeps {γ : Type} (view : Tracker → γ) {Q : Request → Prop}
    (hview : ∀ t r, Q r → view (t.respond r).1 = view t) {p : Program α} (hp : p.Sends Q) (w : World) :
    view (w.after p).tracker = view w.tracker :=
  after_preserves (I := fun t => view t = view w.tracker) (fun t r ht hr => (hview t r hr).trans ht) hp rfl

/-! ## Requests of the parts

A part of an operation makes requests of a kind when those that it is made of are of that kind. -/

section Parts

variable {Q : Request → Prop}

theorem Program.sends_done (r : Except TrackerError α) : (Program.done r).Sends Q := trivial

theorem Program.sends_logged (r : Except TrackerError (α × List Warning)) : (Program.logged r).Sends Q := by
  cases r with
  | ok a => exact sends_warnAll (sends_done _)
  | error e => trivial

theorem RemoteLinks.sends_readEntries (entries : List Json) : (readEntries entries).Sends Q := by
  induction entries with
  | nil => trivial
  | cons entry rest ih =>
    apply Program.sends_bind (Program.sends_logged _)
    intro link
    exact Program.sends_bind ih fun links => trivial

theorem CommentStore.sends_readLinks (comments : List Comment) : (readLinks comments).Sends Q := by
  induction comments with
  | nil => trivial
  | cons comment rest ih =>
    apply Program.sends_warnAll
    exact Program.sends_bind ih fun links => trivial

theorem RemoteLinks.sends_list_of {store : RemoteLinks}
    (h : Q ((Request.get store.path).onStatus 401 (.arr []))) : store.list.Sends Q :=
  Program.sends_bind (Program.sends_execute h) fun _ => sends_readEntries _

theorem RemoteLinks.sends_remove_of {store : RemoteLinks} (hlist : store.list.Sends Q)
    (hdelete : ∀ id, (store.deleteId id).Sends Q) (link : WebLink) : (store.remove link).Sends Q := by
  have hids (ids : List String) : (store.deleteIds ids).Sends Q := by
    induction ids with
    | nil => trivial
    | cons id rest ih => exact Program.sends_bind (hdelete id) fun _ => ih
  exact Program.sends_bind hlist fun _ => hids _

namespace CommentStore

variable {store : CommentStore}

theorem sends_list_of (h : Q ((Request.get store.path).param "maxResults" pageSize)) : store.list.Sends Q :=
  Program.sends_bind (Program.sends_execute h) fun _ => trivial

theorem sends_listLinks_of (h : store.list.Sends Q) : store.listLinks.Sends Q :=
  Program.sends_bind h fun _ => sends_readLinks _

theorem sends_create_of {body : String} (h : Q (.post store.path (store.bodyDocument body))) :
    (store.create body).Sends Q :=
  Program.sends_bind (Program.sends_execute h) fun _ => trivial

theorem sends_update_of {id body : String} (h : Q (.put (store.commentPath id) (store.bodyDocument body))) :
    (store.update id body).Sends Q :=
  Program.sends_bind (Program.sends_execute h) fun _ => trivial

theorem sends_addLink_of {link : WebLink} (hlist : store.list.Sends Q)
    (hcreate : (store.create (WebLink.CommentForm.render link)).Sends Q) : (store.addLink link).Sends Q := by
  apply Program.sends_bind (sends_listLinks_of hlist)
  intro posted
  split
  · trivial
  · exact Program.sends_bind hcreate fun _ => trivial

theorem sends_removeLink_of (hlist : store.list.Sends Q) (hdelete : ∀ id, (store.delete id).Sends Q)
    (link : WebLink) : (store.removeLink link).Sends Q := by
  have hfrom (comments : List Comment) : (store.removeFrom link.uri comments).Sends Q := by
    induction comments with
    | nil => trivial
    | cons comment rest ih =>
      apply Program.sends_warnAll
      dsimp only
      split
      · exact Program.sends_bind (hdelete comment.id) fun _ => ih
      · exact ih
  exact Program.sends_bind hlist fun _ => hfrom _

end CommentStore

theorem Project.sends_issue_of {id : String} (h : Q ((Request.get ("issue/" ++ id)).onStatus 404 .null)) :
    (issue id).Sends Q := by
  apply Program.sends_bind (Program.sends_execute h)
  intro document
  split
  · trivial
  · exact Program.sends_bind (Program.sends_done _) fun _ => trivial

theorem Project.sends_linkTypes_of (h : Q (.get "issueLinkType")) : linkTypes.Sends Q := by
  rintro (_ | types)
  · apply Program.sends_bind
    · exact Program.sends_bind (Program.sends_execute h) fun _ => trivial
    · exact fun _ => trivial
  · trivial

theorem Snapshot.sends_fetchIssueLink_of (h : ∀ key, (Project.issue key).Sends Q) (entry : Json) :
    (fetchIssueLink entry).Sends Q := by
  apply Program.sends_bind (Program.sends_done _)
  rintro ⟨key, relationship⟩
  apply Program.sends_bind (h key)
  rintro (_ | target) <;> trivial

theorem Snapshot.sends_issueLinks_of (h : ∀ key, (Project.issue key).Sends Q) (entries : List Json) :
    (issueLinks entries).Sends Q := by
  induction entries with
  | nil => trivial
  | cons entry rest ih =>
    apply Program.sends_bind (sends_fetchIssueLink_of h entry)
    intro link
    exact Program.sends_bind ih fun _ => trivial

/-- A drive asks for what is offered and for transitions. -/
theorem Workflow.Drive.sends_toProgram {path : String} (hfetch : Q (.get (path ++ "/transitions")))
    (hperform : ∀ id, Q (.post (path ++ "/transitions") (transitionBody id))) (d : Drive) :
    (d.toProgram path).Sends Q := by
  induction d with
  | done result => trivial
  | warn w rest ih => exact ih
  | fetch next ih => exact ⟨hfetch, fun answer => ih _⟩
  | perform id next ih => exact ⟨hperform id, fun answer => ih _⟩

end Parts

/-! ## Requests that only read -/

/-- A tracker without its log. -/
def Tracker.unlogged (t : Tracker) : Tracker := { t with log := [] }

section Unlogged

variable {t t' : Tracker} (h : t'.unlogged = t.unlogged)
include h

theorem Tracker.commentsOf_of_unlogged (key : String) : t'.commentsOf key = t.commentsOf key :=
  (congrArg (commentsOf · key) h :)

theorem Tracker.remoteLinksOf_of_unlogged (key : String) : t'.remoteLinksOf key = t.remoteLinksOf key :=
  (congrArg (remoteLinksOf · key) h :)

theorem Tracker.user_of_unlogged : t'.user = t.user := (congrArg user h :)

theorem Tracker.nextCommentId_of_unlogged : t'.nextCommentId = t.nextCommentId := (congrArg nextCommentId h :)

theorem Tracker.nextRemoteLinkId_of_unlogged : t'.nextRemoteLinkId = t.nextRemoteLinkId :=
  (congrArg nextRemoteLinkId h :)

theorem Snapshot.On.of_unlogged {s : Snapshot} (hs : s.On t) : s.On t' := by
  have hissues : t'.issues = t.issues := (congrArg Tracker.issues h :)
  exact ⟨hs.slashFree, hissues ▸ hs.known⟩

end Unlogged

/-- Reading changes nothing but the log. -/
theorem Tracker.unlogged_respond (t : Tracker) (r : Request) (h : r.method = .get) :
    (t.respond r).1.unlogged = t.unlogged := by
  -- One case for each route, in their order.
  unfold respond route
  split
  · unfold issueRoute
    split
    · rfl
    · simp only [h]
      rfl
  · simp only [h]
    rfl
  · unfold commentsRoute
    split
    · rfl
    · simp only [h]
      rfl
  · unfold commentRoute
    dsimp only
    split
    · rfl
    · simp only [h]
      rfl
  · unfold transitionsRoute
    split
    · rfl
    · simp only [h]
      rfl
  · unfold remoteLinksRoute
    split
    · rfl
    · simp only [h]
      split <;> rfl
  · simp only [h]
    rfl
  · simp only [h]
    rfl
  · rfl

/-- A request that only reads. -/
def Request.Reads (r : Request) : Prop := r.method = .get

theorem RemoteLinks.reads_list (store : RemoteLinks) : store.list.Sends Request.Reads := sends_list_of rfl

theorem CommentStore.reads_list (store : CommentStore) : store.list.Sends Request.Reads := sends_list_of rfl

theorem CommentStore.reads_listLinks (store : CommentStore) : store.listLinks.Sends Request.Reads :=
  sends_listLinks_of store.reads_list

theorem Project.reads_issue (id : String) : (issue id).Sends Request.Reads := sends_issue_of rfl

theorem Snapshot.reads_fetchIssueLink (entry : Json) : (fetchIssueLink entry).Sends Request.Reads :=
  sends_fetchIssueLink_of Project.reads_issue entry

theorem Snapshot.reads_issueLinks (entries : List Json) : (issueLinks entries).Sends Request.Reads :=
  sends_issueLinks_of Project.reads_issue entries

/-- Listing the links only reads. -/
theorem Snapshot.reads_links (p : Project) (s : Snapshot) : (s.links p).Sends Request.Reads := by
  apply Program.sends_bind (RemoteLinks.reads_list _)
  intro remote
  apply Program.sends_bind (CommentStore.reads_listLinks _)
  intro inComments
  exact Program.sends_bind (reads_issueLinks _) fun _ => trivial

/-- A program that only reads leaves everything but the log. -/
theorem World.unlogged_after {p : Program α} (hp : p.Sends Request.Reads) (w : World) :
    (w.after p).tracker.unlogged = w.tracker.unlogged :=
  after_keeps Tracker.unlogged Tracker.unlogged_respond hp w

/-! ## Requests about comments -/

/-- A request about the comments of a snapshot's issue. -/
def Snapshot.AsksComments (s : Snapshot) (r : Request) : Prop :=
  ∃ rest, Text.split '/' r.path = "issue" :: s.id :: "comment" :: rest

/-- A tracker without its comments. -/
def Tracker.butComments (t : Tracker) : Tracker :=
  { t with comments := [], nextCommentId := 0, log := [] }

section ButComments

variable {t t' : Tracker}

theorem Tracker.butComments_of_unlogged (h : t'.unlogged = t.unlogged) : t'.butComments = t.butComments :=
  (congrArg butComments h :)

theorem Tracker.remoteLinksOf_of_butComments (h : t'.butComments = t.butComments) (key : String) :
    t'.remoteLinksOf key = t.remoteLinksOf key :=
  (congrArg (remoteLinksOf · key) h :)

theorem Tracker.deniesRemoteLinks_of_butComments (h : t'.butComments = t.butComments) :
    t'.deniesRemoteLinks = t.deniesRemoteLinks :=
  (congrArg deniesRemoteLinks h :)

end ButComments

theorem Snapshot.butComments_respond (s : Snapshot) (t : Tracker) (r : Request) (h : s.AsksComments r) :
    (t.respond r).1.butComments = t.butComments := by
  obtain ⟨rest, hsplit⟩ := h
  rw [Tracker.respond_eq t r hsplit]
  match rest with
  | [] =>
    simp only [Tracker.route, Tracker.commentsRoute]
    split
    · rfl
    · split <;> rfl
  | [id] =>
    simp only [Tracker.route, Tracker.commentRoute]
    split
    · rfl
    · split <;> rfl
  | _ :: _ :: _ => rfl

section Comments

variable {s : Snapshot} (hs : '/' ∉ s.id.toList) (role : Option String)
include hs

theorem Snapshot.asksComments_path {r : Request} (hr : r.path = s.path ++ "/comment") : s.AsksComments r := by
  refine ⟨[], ?_⟩
  rw [hr]
  exact s.split_part hs (by simp) (by decide)

theorem Snapshot.split_commentPath (id : String) :
    Text.split '/' (CommentStore.commentPath ⟨s.path, role⟩ id) =
      "issue" :: s.id :: "comment" :: Text.split '/' id := by
  have hpath : CommentStore.commentPath ⟨s.path, role⟩ id = s.path ++ ("/comment/" ++ id) := by
    simp only [CommentStore.commentPath, CommentStore.path, String.append_assoc]
    rfl
  have hsub : ("/comment/" ++ id).toList = '/' :: ("comment".toList ++ '/' :: id.toList) := by
    simp [String.toList_append]
  rw [hpath, s.split_path_append hs _ hsub, Text.splitOn_append (by simp)]
  simp [Text.split]

/-- The request for one comment reaches the issue's routes. -/
theorem Snapshot.respond_comment (t : Tracker) {id : String} (hid : '/' ∉ id.toList) {r : Request}
    (hr : r.path = CommentStore.commentPath ⟨s.path, role⟩ id) : t.respond r = (t.noted r).commentRoute s.id id r := by
  have hsegments : Text.split '/' r.path = ["issue", s.id, "comment", id] := by
    rw [hr, s.split_commentPath hs, Text.split, Text.splitOn_of_notMem hid]
    simp
  rw [Tracker.respond_eq t r hsegments]
  rfl

/-- A comment that an issue does not have is not found, be it that its id leads to no route. -/
theorem Snapshot.respond_noComment (t : Tracker) {id : String}
    (habsent : ∀ doc ∈ t.commentsOf s.id, Tracker.hasId id doc = false) {r : Request}
    (hr : r.path = CommentStore.commentPath ⟨s.path, role⟩ id) :
    ∃ what, t.respond r = (t.noted r, .error (.notFound what)) := by
  by_cases hid : '/' ∈ id.toList
  · obtain ⟨before, rest, hcut, hbefore⟩ := List.eq_append_cons_of_mem hid
    obtain ⟨piece, pieces, hpieces⟩ := List.exists_cons_of_ne_nil (Text.splitOn_ne_nil '/' rest)
    have hsegments : Text.split '/' r.path =
        "issue" :: s.id :: "comment" :: .ofList before :: .ofList piece :: pieces.map String.ofList := by
      rw [hr, s.split_commentPath hs, Text.split, hcut, Text.splitOn_append hbefore, hpieces]
      rfl
    exact ⟨_, Tracker.respond_eq t r hsegments⟩
  · rw [s.respond_comment hs role t hid hr, Tracker.commentRoute, Tracker.commentsOf_noted,
      List.findIdx?_eq_none_iff.2 habsent]
    exact ⟨_, rfl⟩

theorem CommentStore.sends_list : (CommentStore.list ⟨s.path, role⟩).Sends s.AsksComments :=
  sends_list_of (s.asksComments_path hs rfl)

theorem CommentStore.sends_create (body : String) :
    (CommentStore.create ⟨s.path, role⟩ body).Sends s.AsksComments :=
  sends_create_of (s.asksComments_path hs rfl)

theorem CommentStore.sends_addLink (link : WebLink) :
    (CommentStore.addLink ⟨s.path, role⟩ link).Sends s.AsksComments :=
  sends_addLink_of (sends_list hs role) (sends_create hs role _)

theorem CommentStore.sends_delete (id : String) :
    (CommentStore.delete ⟨s.path, role⟩ id).Sends s.AsksComments :=
  Program.sends_perform ⟨_, s.split_commentPath hs role id⟩

theorem CommentStore.sends_removeLink (link : WebLink) :
    (CommentStore.removeLink ⟨s.path, role⟩ link).Sends s.AsksComments :=
  sends_removeLink_of (sends_list hs role) (sends_delete hs role) link

end Comments

/-! ## Requests about remote links -/

/-- A request about the remote links of a snapshot's issue. -/
def Snapshot.AsksRemoteLinks (s : Snapshot) (r : Request) : Prop :=
  Text.split '/' r.path = ["issue", s.id, "remotelink"]

/-- A tracker without its remote links. -/
def Tracker.butRemoteLinks (t : Tracker) : Tracker :=
  { t with remoteLinks := [], nextRemoteLinkId := 0, log := [] }

section ButRemoteLinks

variable {t t' : Tracker}

theorem Tracker.butRemoteLinks_of_unlogged (h : t'.unlogged = t.unlogged) : t'.butRemoteLinks = t.butRemoteLinks :=
  (congrArg butRemoteLinks h :)

theorem Tracker.commentsOf_of_butRemoteLinks (h : t'.butRemoteLinks = t.butRemoteLinks) (key : String) :
    t'.commentsOf key = t.commentsOf key :=
  (congrArg (commentsOf · key) h :)

theorem Tracker.deniesRemoteLinks_of_butRemoteLinks (h : t'.butRemoteLinks = t.butRemoteLinks) :
    t'.deniesRemoteLinks = t.deniesRemoteLinks :=
  (congrArg deniesRemoteLinks h :)

/-- An issue stays when everything but its remote links stays. -/
theorem Snapshot.On.of_butRemoteLinks {s : Snapshot} (h : s.On t) (heq : t'.butRemoteLinks = t.butRemoteLinks) :
    s.On t' := by
  have hissues : t'.issues = t.issues := (congrArg Tracker.issues heq :)
  exact ⟨h.slashFree, hissues ▸ h.known⟩

end ButRemoteLinks

theorem Tracker.butRemoteLinks_upsert (t : Tracker) (key : String) (entry : Json) :
    (t.upsertRemoteLink key entry).1.butRemoteLinks = t.butRemoteLinks := by
  unfold upsertRemoteLink
  dsimp only
  split <;> split <;> rfl

theorem Tracker.butRemoteLinks_delete (t : Tracker) (key id : String) :
    (t.deleteRemoteLinks key id).1.butRemoteLinks = t.butRemoteLinks := by
  unfold deleteRemoteLinks
  dsimp only
  split <;> rfl

theorem Snapshot.butRemoteLinks_respond (s : Snapshot) (t : Tracker) (r : Request) (h : s.AsksRemoteLinks r) :
    (t.respond r).1.butRemoteLinks = t.butRemoteLinks := by
  rw [Tracker.respond_eq t r h]
  simp only [Tracker.route, Tracker.remoteLinksRoute]
  split
  · rfl
  · split
    · split <;> rfl
    · exact Tracker.butRemoteLinks_upsert _ _ _
    · exact Tracker.butRemoteLinks_delete _ _ _
    · rfl

section RemoteLinks

variable {s : Snapshot} (hs : '/' ∉ s.id.toList)
include hs

theorem Snapshot.asksRemoteLinks_path {r : Request} (hr : r.path = s.path ++ "/remotelink") :
    s.AsksRemoteLinks r := by
  rw [AsksRemoteLinks, hr]
  exact s.split_part hs (by simp) (by decide)

theorem RemoteLinks.sends_list : (RemoteLinks.list ⟨s.path⟩).Sends s.AsksRemoteLinks :=
  sends_list_of (s.asksRemoteLinks_path hs rfl)

theorem RemoteLinks.sends_add (link : WebLink) : (RemoteLinks.add ⟨s.path⟩ link).Sends s.AsksRemoteLinks :=
  Program.sends_perform (s.asksRemoteLinks_path hs rfl)

theorem RemoteLinks.sends_deleteId (id : String) :
    (RemoteLinks.deleteId ⟨s.path⟩ id).Sends s.AsksRemoteLinks :=
  Program.sends_perform (s.asksRemoteLinks_path hs rfl)

theorem RemoteLinks.sends_remove (link : WebLink) :
    (RemoteLinks.remove ⟨s.path⟩ link).Sends s.AsksRemoteLinks :=
  sends_remove_of (sends_list hs) (sends_deleteId hs) link

end RemoteLinks

end IssueTracker
