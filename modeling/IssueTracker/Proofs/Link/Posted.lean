import IssueTracker.Proofs.Comment.Thread
import IssueTracker.Proofs.Link.Posting
import IssueTracker.Proofs.Link.Remote
/-!
# Links among the comments

In a project with a restriction the web links of an issue are kept in its comments. Whatever is
added, removed, listed and written besides, they are the list of the links that the comments
stand for: adding a link appends a comment unless one stands for its address and title, and
removing a link deletes the comments that stand for its address.
-/

namespace IssueTracker

open Tracker (hasId)

/-! ## Removing from comments -/

namespace World.Holds

variable {w : World} {s : Snapshot} {docs : List Json} (role : Option String)

/-- Of some comments, those that stand for a link with an address are deleted. -/
theorem removeFrom (h : w.Holds s docs) (uri : Url) {comments : List Comment}
    (hids : ∀ c ∈ comments, '/' ∉ c.id.toList) :
    let store := CommentStore.mk s.path role
    w.result (store.removeFrom uri comments) = .ok () ∧
      (w.after (store.removeFrom uri comments)).Holds s (docs.filter fun doc =>
        !comments.any fun c => (WebLink.CommentForm.parse? c.body).any (·.uri = uri) && hasId c.id doc) := by
  intro store
  -- Each deletion leaves fewer comments for the next, so the filters add up.
  induction comments generalizing w docs with
  | nil => exact ⟨rfl, by simpa [CommentStore.removeFrom] using h⟩
  | cons c rest ih =>
    have hrest := fun c' hc' => hids c' (List.mem_cons_of_mem _ hc')
    rw [CommentStore.removeFrom, World.result_warnAll, World.after_warnAll]
    by_cases huri : (WebLink.CommentForm.parse? c.body).any (·.uri = uri) = true
    · have hcond : (WebLink.CommentForm.read c.body).link?.any (·.uri = uri) = true := huri
      obtain ⟨hresult, h'⟩ := h.delete role (hids c List.mem_cons_self)
      rw [if_pos hcond, World.result_bind_ok _ hresult, World.after_bind_ok _ hresult]
      obtain ⟨hresult', hholds⟩ := ih h' hrest
      rw [List.filter_filter] at hholds
      refine ⟨hresult', ?_⟩
      simpa only [List.any_cons, huri, Bool.true_and, Bool.not_or, Bool.and_comm] using hholds
    · have hcond : ¬ (WebLink.CommentForm.read c.body).link?.any (·.uri = uri) = true := huri
      rw [if_neg hcond]
      have hfalse : (WebLink.CommentForm.parse? c.body).any (·.uri = uri) = false := by simpa using huri
      simpa only [List.any_cons, hfalse, Bool.false_and, Bool.false_or] using ih h hrest

/-- Removing a link deletes exactly the comments that stand for its address. -/
theorem removeLink (h : w.Holds s docs) (l : WebLink) :
    let store := CommentStore.mk s.path role
    w.result (store.removeLink l) = .ok () ∧
      (w.after (store.removeLink l)).Holds s (docs.filter fun doc => !postsTo l.uri doc) := by
  intro store
  obtain ⟨comments, hlist, hmap⟩ := h.result_list role
  have h' : (w.after store.list).Holds s docs := h.of_unlogged (World.unlogged_after store.reads_list w)
  have hids : ∀ c ∈ comments, '/' ∉ c.id.toList := by
    intro c hc
    obtain ⟨doc, hdoc, hread⟩ := source_of_mem hmap hc
    exact (h.thread.id_of_ofJson hdoc hread).2
  rw [CommentStore.removeLink, World.result_bind_ok _ hlist, World.after_bind_ok _ hlist]
  obtain ⟨hresult, hholds⟩ := h'.removeFrom role l.uri hids
  refine ⟨hresult, ?_⟩
  -- The comments that are deleted are those whose documents stand for the address.
  have hsame : ∀ doc ∈ docs, (!comments.any fun c =>
      (WebLink.CommentForm.parse? c.body).any (·.uri = l.uri) && hasId c.id doc) = !postsTo l.uri doc := by
    intro doc hdoc
    rw [Bool.not_inj_iff, Bool.eq_iff_iff, List.any_eq_true]
    constructor
    · rintro ⟨c, hc, hmatch⟩
      rw [Bool.and_eq_true] at hmatch
      obtain ⟨doc', hdoc', hread⟩ := source_of_mem hmap hc
      have hid := (h.thread.id_of_ofJson hdoc' hread).1
      obtain rfl := h.thread.eq_of_id hdoc hdoc' ((Thread.hasId_iff.1 hmatch.2).trans hid.symm)
      rw [postsTo, postedLink?_of_ofJson hread]
      exact hmatch.1
    · intro hposts
      obtain ⟨c, hc, hread⟩ := result_of_mem hmap hdoc
      rw [postsTo, postedLink?_of_ofJson hread] at hposts
      have hid := Thread.hasId_iff.2 (h.thread.id_of_ofJson hdoc hread).1
      exact ⟨c, hc, by rw [hposts, hid]; rfl⟩
  rw [List.filter_congr hsame] at hholds
  exact hholds

/-! ## Adding to comments -/

theorem lists (h : w.Holds s docs) : w.Lists s docs := ⟨h.on, h.comments_eq, h.thread.reads⟩

/-- A link whose address and title are there is not added again. -/
theorem addLink_found (h : w.Holds s docs) {l : WebLink} (hfound : (postedLinks docs).any (·.sameTarget l) = true) :
    let store := CommentStore.mk s.path role
    w.result (store.addLink l) = .ok () ∧ (w.after (store.addLink l)).Holds s docs := by
  intro store
  obtain ⟨hresult, hafter, -⟩ := CommentStore.addLink_found (h.lists.listLinks role) hfound
  rw [hafter]
  exact ⟨hresult, h.of_unlogged (World.unlogged_after store.reads_listLinks w)⟩

/-- Any other link is added as a comment that stands for it. -/
theorem addLink_new (h : w.Holds s docs) {l : WebLink} (hl : l.Postable)
    (hnew : (postedLinks docs).any (·.sameTarget l) = false) :
    let store := CommentStore.mk s.path role
    w.result (store.addLink l) = .ok () ∧
      ∃ doc, postedLink? doc = some l.plain ∧ (w.after (store.addLink l)).Holds s (docs ++ [doc]) := by
  intro store
  obtain ⟨hresult, -, hon, hcomments, hnumber⟩ := CommentStore.addLink_new h.on role (h.lists.listLinks role) hnew
  refine ⟨hresult, _, (store.postedLink?_document _ _).trans (WebLink.CommentForm.parse?_render hl), hon,
    hcomments.trans (congrArg (· ++ [_]) h.comments_eq), ?_⟩
  rw [hnumber]
  exact h.thread.append _ _ _

end World.Holds

/-! ## Calls -/

/-- What is done with the web links and the comments of an issue. A remark is a comment that
somebody else writes. -/
inductive ThreadCall where
  | link (c : LinkCall)
  | comment (body : String)
  | remark (author body : String)

namespace ThreadCall

variable (p : Project) (s : Snapshot)

/-- The world after a call. -/
def play (w : World) : ThreadCall → World
  | link c => w.after (c.program p s)
  | comment body => w.after (s.addComment p body)
  | remark author body => ⟨(w.tracker.addComment s.id author body).1, w.memory⟩

/-- A call that changes something ends well. -/
def Succeeds (w : World) : ThreadCall → Prop
  | link .list => True
  | link c => w.result (c.program p s) = .ok []
  | comment body => ∃ c, w.result (s.addComment p body) = .ok c ∧ c.body = body
  | remark _ _ => True

/-- Links that are added can be told by a comment. -/
def Postable : ThreadCall → Prop
  | link (.add l) => l.Postable
  | _ => True

/-- What a call makes of the documents of comments. -/
inductive Changes (docs : List Json) : ThreadCall → List Json → Prop
  | found {l : WebLink} : (postedLinks docs).any (·.sameTarget l) = true → Changes docs (link (.add l)) docs
  | added {l : WebLink} {doc : Json} : (postedLinks docs).any (·.sameTarget l) = false →
      postedLink? doc = some l.plain → Changes docs (link (.add l)) (docs ++ [doc])
  | removed {l : WebLink} : Changes docs (link (.remove l)) (docs.filter fun doc => !postsTo l.uri doc)
  | listed : Changes docs (link .list) docs
  | commented {body : String} {doc : Json} : doc.getD "body" = .str body → Changes docs (comment body) (docs ++ [doc])
  | remarked {author body : String} {doc : Json} : doc.getD "body" = .str body →
      Changes docs (remark author body) (docs ++ [doc])

/-- What a call makes of a list of links. -/
def onLinks (links : List WebLink) : ThreadCall → List WebLink
  | link (.add l) => if links.any (·.sameTarget l) then links else links ++ [l.plain]
  | link (.remove l) => links.filter fun link => link.uri ≠ l.uri
  | link .list => links
  | comment body => links ++ (WebLink.CommentForm.parse? body).toList
  | remark _ body => links ++ (WebLink.CommentForm.parse? body).toList

/-- The text that a call writes and that stands for no link. -/
def text? : ThreadCall → Option String
  | link _ => none
  | comment body => if (WebLink.CommentForm.parse? body).isNone then some body else none
  | remark _ body => if (WebLink.CommentForm.parse? body).isNone then some body else none

end ThreadCall

/-- The documents of comments that stand for no link. -/
def textsOf (docs : List Json) : List Json := docs.filter fun doc => (postedLink? doc).isNone

theorem textsOf_append (docs : List Json) (doc : Json) :
    textsOf (docs ++ [doc]) = textsOf docs ++ if (postedLink? doc).isNone then [doc] else [] := by
  rw [textsOf, List.filter_append]
  split
  · rename_i hnone
    rw [List.filter_cons_of_pos (by simpa using hnone)]
    rfl
  · rename_i hsome
    rw [List.filter_cons_of_neg (by simpa using hsome)]
    rfl

/-- Comments that stand for no link are not removed. -/
theorem textsOf_filter (uri : Url) (docs : List Json) :
    textsOf (docs.filter fun doc => !postsTo uri doc) = textsOf docs := by
  rw [textsOf, textsOf, List.filter_filter]
  refine List.filter_congr fun doc _ => ?_
  cases h : postedLink? doc <;> simp [postsTo, h]

theorem postedLinks_filter (uri : Url) (docs : List Json) :
    postedLinks (docs.filter fun doc => !postsTo uri doc) = (postedLinks docs).filter fun link => link.uri ≠ uri := by
  rw [postedLinks, postedLinks, List.filterMap_filter, List.filter_filterMap]
  refine List.filterMap_congr fun doc _ => ?_
  cases h : postedLink? doc with
  | none => simp
  | some l => simp [postsTo, h, Option.filter]

namespace ThreadCall.Changes

variable {docs docs' : List Json} {c : ThreadCall}

/-- The links follow the calls. -/
theorem links_eq (h : Changes docs c docs') : postedLinks docs' = c.onLinks (postedLinks docs) := by
  cases h with
  | found hfound => rw [onLinks, if_pos hfound]
  | added hnew hdoc => rw [onLinks, if_neg (by simp [hnew]), postedLinks_append, hdoc]; rfl
  | removed => rw [onLinks, postedLinks_filter]
  | listed => rfl
  | commented hbody => rw [onLinks, postedLinks_append, postedLink?_of_body hbody]
  | remarked hbody => rw [onLinks, postedLinks_append, postedLink?_of_body hbody]

/-- Texts stay, and new ones come after them. -/
theorem texts_eq (h : Changes docs c docs') : ∃ new, textsOf docs' = textsOf docs ++ new ∧
    new.map (·.getD "body") = (c.text?.map .str).toList := by
  have hwritten {body : String} {doc : Json} (hbody : doc.getD "body" = .str body) :
      ∃ new, textsOf (docs ++ [doc]) = textsOf docs ++ new ∧ new.map (·.getD "body") =
        ((if (WebLink.CommentForm.parse? body).isNone then some body else none).map Json.str).toList := by
    refine ⟨_, textsOf_append docs doc, ?_⟩
    rw [postedLink?_of_body hbody]
    split
    · simp [hbody]
    · rfl
  cases h with
  | found => exact ⟨[], by simp, rfl⟩
  | added _ hdoc =>
    refine ⟨[], ?_, rfl⟩
    rw [textsOf_append, hdoc]
    simp
  | removed => exact ⟨[], by rw [textsOf_filter, List.append_nil], rfl⟩
  | listed => exact ⟨[], by simp, rfl⟩
  | commented hbody => exact hwritten hbody
  | remarked hbody => exact hwritten hbody

end ThreadCall.Changes

/-! ## Runs -/

/-- The world after calls in turn. -/
def World.play (w : World) (p : Project) (s : Snapshot) (calls : List ThreadCall) : World :=
  calls.foldl (fun w c => c.play p s w) w

section Runs

variable {p : Project} {s : Snapshot} {w : World} {docs : List Json} {calls : List ThreadCall}

/-- What one call does. -/
theorem World.Holds.plays (hp : p.isRestricted = true) (h : w.Holds s docs) (hlist : w.CanList s)
    {c : ThreadCall} (hc : c.Postable) :
    c.Succeeds p s w ∧ (c.play p s w).CanList s ∧
      ∃ docs', ThreadCall.Changes docs c docs' ∧ (c.play p s w).Holds s docs' := by
  have hkeeps {α : Type} {program : Program α} (hsends : program.Sends s.AsksComments) :
      (w.after program).CanList s :=
    hlist.of_butComments (World.after_keeps Tracker.butComments s.butComments_respond hsends w)
  cases c with
  | link c =>
    cases c with
    | add l =>
      rw [ThreadCall.Succeeds, ThreadCall.play, LinkCall.program, s.addLink_restricted hp, World.after_bind_pure]
      · cases hfound : (postedLinks docs).any (·.sameTarget l) with
        | true =>
          obtain ⟨hresult, hholds⟩ := h.addLink_found p.visibilityRole hfound
          rw [World.result_bind_ok _ hresult, World.result_pure]
          exact ⟨rfl, hkeeps (CommentStore.sends_addLink h.on.slashFree _ l), docs, .found hfound, hholds⟩
        | false =>
          obtain ⟨hresult, doc, hdoc, hholds⟩ := h.addLink_new p.visibilityRole hc hfound
          rw [World.result_bind_ok _ hresult, World.result_pure]
          exact ⟨rfl, hkeeps (CommentStore.sends_addLink h.on.slashFree _ l), _, .added hfound hdoc, hholds⟩
      · simp
    | remove l =>
      -- The remote links come first, and have no part in the comments.
      obtain ⟨hremote, hlist'⟩ := hlist.remove (l := l) h.on
      have hbut := World.after_keeps Tracker.butRemoteLinks s.butRemoteLinks_respond
        (RemoteLinks.sends_remove h.on.slashFree l) w
      obtain ⟨hresult, hholds⟩ := (h.of_butRemoteLinks hbut).removeLink p.visibilityRole l
      have hafter := World.after_keeps Tracker.butComments s.butComments_respond
        (CommentStore.sends_removeLink h.on.slashFree p.visibilityRole l) (w.after ((RemoteLinks.mk s.path).remove l))
      have hremove : s.removeLink p (.web l) = (do
          (RemoteLinks.mk s.path).remove l
          (CommentStore.mk s.path p.visibilityRole).removeLink l) := rfl
      have hboth : w.result (s.removeLink p (.web l)) = .ok () := by
        rw [hremove, World.result_bind_ok _ hremote]
        exact hresult
      rw [ThreadCall.Succeeds, ThreadCall.play, LinkCall.program, World.after_bind_pure]
      · rw [World.result_bind_ok _ hboth, World.result_pure, hremove, World.after_bind_ok _ hremote]
        exact ⟨rfl, hlist'.of_butComments hafter, _, .removed, hholds⟩
      · simp
    | list =>
      have hunlogged := World.unlogged_after (s.reads_links p) w
      refine ⟨trivial, hlist.of_butComments (Tracker.butComments_of_unlogged hunlogged), docs, .listed, ?_⟩
      exact h.of_unlogged hunlogged
  | comment body =>
    obtain ⟨doc, c, hresult, hread, hbody, hholds⟩ := h.create p.visibilityRole body
    have hdoc : doc.getD "body" = .str body := by
      rw [Json.getD, (Comment.of_ofJson hread).1, hbody]
      rfl
    exact ⟨⟨c, hresult, hbody⟩, hkeeps (CommentStore.sends_create h.on.slashFree _ body), _, .commented hdoc, hholds⟩
  | remark author body =>
    have hdoc : (w.tracker.newComment author body).getD "body" = .str body := by
      rw [Json.getD, Tracker.get?_newComment]
      simp
    refine ⟨trivial, hlist.of_butComments rfl, _, .remarked hdoc, ⟨h.on.slashFree, h.on.known⟩, ?_, ?_⟩
    · simp [ThreadCall.play, Tracker.addComment, Tracker.commentsOf, Tracker.putComments, ← h.comments_eq]
    · exact h.thread.append author body .null

/-- What calls in turn do: the links follow the calls, and the texts stay. -/
theorem World.Holds.play (hp : p.isRestricted = true) (h : w.Holds s docs) (hlist : w.CanList s)
    (hcalls : ∀ c ∈ calls, c.Postable) :
    (w.play p s calls).CanList s ∧ ∃ docs', (w.play p s calls).Holds s docs' ∧
      postedLinks docs' = calls.foldl ThreadCall.onLinks (postedLinks docs) ∧
      ∃ new, textsOf docs' = textsOf docs ++ new ∧
        new.map (·.getD "body") = (calls.filterMap ThreadCall.text?).map .str := by
  induction calls generalizing w docs with
  | nil => exact ⟨hlist, docs, h, rfl, [], by simp, rfl⟩
  | cons c calls ih =>
    obtain ⟨-, hlist', docs', hchanges, h'⟩ := h.plays hp hlist (hcalls c List.mem_cons_self)
    obtain ⟨hlist'', docs'', h'', hlinks, new', htexts', hnew'⟩ :=
      ih h' hlist' fun c' hc' => hcalls c' (List.mem_cons_of_mem _ hc')
    obtain ⟨new, htexts, hnew⟩ := hchanges.texts_eq
    refine ⟨hlist'', docs'', h'', ?_, new ++ new', ?_, ?_⟩
    · rw [hlinks, hchanges.links_eq, List.foldl_cons]
    · rw [htexts', htexts, List.append_assoc]
    · rw [List.map_append, hnew, hnew', List.filterMap_cons]
      cases c.text? <;> rfl

/-- In a restricted project the web links are the list that the comments stand for. After any run
that list is what the calls make of the first one, texts that stand for no link are all there in
their order, and a successful listing shows the list. A further call ends well and changes the
comments as it should: a link is added unless its address and title are there, and removing a
link deletes exactly the comments that stand for its address. -/
theorem commentLinks_refine_list (hp : p.isRestricted = true) (hs : s.On w.tracker)
    (hthread : Thread (w.tracker.commentsOf s.id) w.tracker.nextCommentId) (hlist : w.CanList s)
    (hcalls : ∀ c ∈ calls, c.Postable) :
    let w' := w.play p s calls
    let docs := w.tracker.commentsOf s.id
    let docs' := w'.tracker.commentsOf s.id
    postedLinks docs' = calls.foldl ThreadCall.onLinks (postedLinks docs) ∧
      (∃ new, textsOf docs' = textsOf docs ++ new ∧
        new.map (·.getD "body") = (calls.filterMap ThreadCall.text?).map .str) ∧
      (∀ ls, w'.result (s.links p) = .ok ls → ls.filterMap Link.posted? = postedLinks docs') ∧
      (∀ inComments issues, w'.ListsOthers p s inComments issues →
        inComments = postedLinks docs' ∧ ∃ ls, w'.result (s.links p) = .ok ls) ∧
      ∀ c : ThreadCall, c.Postable → c.Succeeds p s w' ∧
        c.Changes docs' ((c.play p s w').tracker.commentsOf s.id) := by
  intro w' docs docs'
  have hholds : w.Holds s docs := ⟨hs, rfl, hthread⟩
  obtain ⟨hlist', final, h', hlinks, htexts⟩ := hholds.play hp hlist hcalls
  obtain rfl : docs' = final := h'.comments_eq
  -- Whatever the remote links, the comments are listed after them.
  have hcomments : (w'.after (RemoteLinks.mk s.path).list).result (s.commentStore p).listLinks =
      .ok (postedLinks docs') :=
    (h'.of_unlogged (World.unlogged_after (RemoteLinks.reads_list _) w')).lists.listLinks p.visibilityRole
  refine ⟨hlinks, htexts, ?_, ?_, ?_⟩
  · intro ls hls
    exact Except.ok.inj ((s.parts_of_links w' p hls).2.symm.trans hcomments)
  · intro inComments issues hothers
    obtain ⟨remote, hremote⟩ := hlist'.result_list h'.on
    exact ⟨Except.ok.inj (hothers.comments.symm.trans hcomments),
      _, (s.links_eq_ok w' p).2 ⟨remote, inComments, issues, hremote, hothers, rfl⟩⟩
  · intro c hc
    obtain ⟨hsucceeds, -, docs'', hchanges, h''⟩ := h'.plays hp hlist' hc
    exact ⟨hsucceeds, h''.comments_eq ▸ hchanges⟩

end Runs

/-- A project that restricts its comments. -/
def Project.restricted : Project := ⟨.repository, some "Committers", .standard⟩

theorem WebLink.postable_mirror : WebLink.mirror.Postable := by
  refine ⟨⟨by decide, by decide⟩, ?_, ?_, ⟨by decide, by decide⟩, Url.readsBack_repository⟩
  · rintro text ⟨⟩
  · rintro text ⟨⟩

/-- A tracker with an issue on which somebody has remarked. -/
def Tracker.remarked : Tracker := ((Tracker.ofIssue "X-1" "Open" []).addComment "X-1" "rk" "Seen on Linux").1

/-- A link is added, somebody else refers to its address under another title, and the link is
removed. -/
def ThreadCall.addReferRemove : List ThreadCall :=
  [.link (.add .mirror), .remark "rk" "Remote link: Repository\nURL: git://example.org", .link (.remove .mirror)]

/-- Removing the link removes what somebody else wrote about its address, and not the remark. -/
theorem commentLinks_remove_reference :
    let w : World := ⟨Tracker.remarked, none⟩
    let s := Snapshot.ofIssue "X-1" "Open"
    Project.restricted.isRestricted = true ∧ s.On w.tracker ∧
      Thread (w.tracker.commentsOf s.id) w.tracker.nextCommentId ∧ w.CanList s ∧
      (∀ c ∈ ThreadCall.addReferRemove, c.Postable) ∧
      postedLinks ((w.play .restricted s ThreadCall.addReferRemove).tracker.commentsOf s.id) = [] := by
  intro w s
  have hon : s.On w.tracker := ⟨by decide, by decide +kernel⟩
  have hthread : Thread (w.tracker.commentsOf s.id) w.tracker.nextCommentId :=
    (Thread.nil _).append (t := Tracker.ofIssue "X-1" "Open" []) "rk" "Seen on Linux" .null
  have hlist : w.CanList s := .inr fun entry hentry => by cases hentry
  have hcalls : ∀ c ∈ ThreadCall.addReferRemove, c.Postable := by
    simp [ThreadCall.addReferRemove, ThreadCall.Postable, WebLink.postable_mirror]
  refine ⟨rfl, hon, hthread, hlist, hcalls, ?_⟩
  have hlinks := (commentLinks_refine_list (p := .restricted) rfl hon hthread hlist hcalls).1
  rw [hlinks]
  decide +kernel

end IssueTracker
