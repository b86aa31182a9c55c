import IssueTracker.Proofs.Comment.Page
import IssueTracker.Proofs.Link.CommentText
import IssueTracker.Proofs.Link.Listing
/-!
# Posting links

The links that comments stand for, and what adding one comes to. Where a link with its address and
title is listed nothing is written; otherwise its comment is, whether or not it can be read as the
link again.
-/

namespace IssueTracker

/-! ## Documents as links -/

/-- The link that the document of a comment stands for. -/
def postedLink? (doc : Json) : Option WebLink :=
  ((doc.getD "body").asString?).bind WebLink.CommentForm.parse?

/-- The links that the documents of comments stand for, in their order. -/
def postedLinks (docs : List Json) : List WebLink := docs.filterMap postedLink?

/-- Whether the document of a comment stands for a link with an address. -/
def postsTo (uri : Url) (doc : Json) : Bool := (postedLink? doc).any (·.uri = uri)

theorem postedLink?_of_body {doc : Json} {body : String} (h : doc.getD "body" = .str body) :
    postedLink? doc = WebLink.CommentForm.parse? body := by
  rw [postedLink?, h]
  rfl

theorem postedLink?_of_ofJson {doc : Json} {c : Comment} (h : Comment.ofJson doc = .ok c) :
    postedLink? doc = WebLink.CommentForm.parse? c.body := by
  simp [postedLink?, Json.getD, (Comment.of_ofJson h).1, Json.asString?]

theorem postedLinks_append (docs : List Json) (doc : Json) :
    postedLinks (docs ++ [doc]) = postedLinks docs ++ (postedLink? doc).toList := by
  rw [postedLinks, List.filterMap_append]
  cases h : postedLink? doc <;> simp [h, postedLinks]

/-- The links of comments are those of their documents. -/
theorem filterMap_parse? {docs : List Json} {comments : List Comment}
    (h : docs.map Comment.ofJson = comments.map .ok) :
    (comments.filterMap fun c => WebLink.CommentForm.parse? c.body) = postedLinks docs := by
  induction docs generalizing comments with
  | nil =>
    obtain rfl : comments = [] := by simpa using h.symm
    rfl
  | cons doc rest ih =>
    cases comments with
    | nil => cases h
    | cons c comments =>
      rw [List.map_cons, List.map_cons, List.cons.injEq] at h
      rw [postedLinks, List.filterMap_cons, List.filterMap_cons, ih h.2, postedLink?_of_ofJson h.1]
      rfl

/-! ## Listing -/

/-- The comments of a snapshot's issue, all of which can be read. -/
structure World.Lists (w : World) (s : Snapshot) (docs : List Json) : Prop where
  on : s.On w.tracker
  comments_eq : w.tracker.commentsOf s.id = docs
  reads : ∀ doc ∈ docs, ∃ c, Comment.ofJson doc = .ok c

/-- Listing gives the links that the comments stand for. -/
theorem World.Lists.listLinks {w : World} {s : Snapshot} {docs : List Json} (h : w.Lists s docs)
    (role : Option String) : w.result (CommentStore.mk s.path role).listLinks = .ok (postedLinks docs) := by
  obtain ⟨comments, hreads⟩ := exists_map_ok h.reads
  have hlist := (CommentStore.list_eq_ok h.on role).2 (h.comments_eq ▸ hreads)
  rw [CommentStore.listLinks, World.result_bind_ok _ hlist, World.result_readLinks, filterMap_parse? hreads]

/-! ## Adding -/

namespace CommentStore

variable {w : World} {s : Snapshot} (hon : s.On w.tracker) (role : Option String)

/-- What is kept for a link stands for what its comment is read as. -/
theorem postedLink?_document (store : CommentStore) (t : Tracker) (body : String) :
    postedLink? (store.document t body) = WebLink.CommentForm.parse? body := by
  obtain ⟨c, hread, rfl⟩ := store.ofJson_document t body
  exact postedLink?_of_ofJson hread

variable {store : CommentStore} {posted : List WebLink} {l : WebLink}

/-- A link whose address and title are listed is not written. -/
theorem addLink_found (hlist : w.result store.listLinks = .ok posted)
    (hfound : posted.any (·.sameTarget l) = true) :
    w.result (store.addLink l) = .ok () ∧ w.after (store.addLink l) = w.after store.listLinks ∧
      w.calls (store.addLink l) = w.calls store.listLinks := by
  rw [addLink, World.result_bind_ok _ hlist, World.after_bind_ok _ hlist, World.calls_bind_ok _ hlist, if_pos hfound]
  simp

include hon in
/-- Any other link is written as a comment. -/
theorem addLink_new (hlist : w.result (CommentStore.mk s.path role).listLinks = .ok posted)
    (hnew : posted.any (·.sameTarget l) = false) :
    let store := CommentStore.mk s.path role
    let w' := w.after (store.addLink l)
    let body := WebLink.CommentForm.render l
    w.result (store.addLink l) = .ok () ∧
      w.calls (store.addLink l) = w.calls store.listLinks ++ [.post store.path (store.bodyDocument body)] ∧
      s.On w'.tracker ∧
      w'.tracker.commentsOf s.id = w.tracker.commentsOf s.id ++ [store.document w.tracker body] ∧
      w'.tracker.nextCommentId = w.tracker.nextCommentId + 1 := by
  intro store w' body
  -- Listing only reads, so what is written is what would be written without it.
  have hunlogged := World.unlogged_after store.reads_listLinks w
  have hdocument := store.document_of_unlogged hunlogged body
  obtain ⟨hresult, hcalls, hafter⟩ := creates (hon.of_unlogged hunlogged) role body
  obtain ⟨c, hread, -⟩ := store.ofJson_document (w.after store.listLinks).tracker body
  have hcreate := hresult.trans hread
  have hw' : w' = (w.after store.listLinks).after (store.create body) := by
    show w.after (store.addLink l) = _
    rw [addLink, World.after_bind_ok _ hlist, if_neg (by simp [hnew]), World.after_bind_ok _ hcreate, World.after_pure]
  rw [addLink, World.result_bind_ok _ hlist, World.calls_bind_ok _ hlist, if_neg (by simp [hnew]),
    World.result_bind_ok _ hcreate, World.calls_bind_ok _ hcreate, hcalls]
  rw [Tracker.commentsOf_of_unlogged hunlogged, Tracker.nextCommentId_of_unlogged hunlogged, hdocument, ← hw'] at hafter
  exact ⟨rfl, rfl, hafter⟩

end CommentStore

/-- In a restricted project a web link is added to the comments. -/
theorem Snapshot.addLink_restricted {p : Project} (hp : p.isRestricted = true) (s : Snapshot) (l : WebLink) :
    s.addLink p (.web l) = (CommentStore.mk s.path p.visibilityRole).addLink l := by
  simp [addLink, addWebLink, hp, commentStore]

end IssueTracker
