import IssueTracker.Proofs.Comment.Documents
import IssueTracker.Proofs.Results
import IssueTracker.Proofs.Sends
/-!
# Listing and writing comments

What listing and writing comments comes to, whatever comments an issue has. Listing succeeds
exactly when all of them can be read; writing always does, and appends one comment.
-/

namespace IssueTracker.CommentStore

open Tracker (restricted)

/-- The document that a tracker keeps for a new body. -/
def document (store : CommentStore) (t : Tracker) (body : String) : Json :=
  restricted (store.bodyDocument body) (t.newComment t.user body)

/-- The log has no part in it. -/
theorem document_of_unlogged (store : CommentStore) {t t' : Tracker} (h : t'.unlogged = t.unlogged) (body : String) :
    store.document t' body = store.document t body := by
  simp only [document, Tracker.newComment, Tracker.user_of_unlogged h, Tracker.nextCommentId_of_unlogged h]

theorem getD_bodyDocument (store : CommentStore) (body : String) :
    (store.bodyDocument body).getD "body" = .str body := by
  rw [bodyDocument, Json.getD_ofMembers]
  cases store.role <;> simp

/-- What is kept for a body is read as a comment with the body. -/
theorem ofJson_document (store : CommentStore) (t : Tracker) (body : String) :
    ∃ c, Comment.ofJson (store.document t body) = .ok c ∧ c.body = body :=
  ⟨_, (Tracker.ofJson_restricted _ _).trans (t.ofJson_newComment t.user body), rfl⟩

variable {w : World} {s : Snapshot} (hon : s.On w.tracker) (role : Option String)
include hon

/-- Listing reads the stored documents, up to the first that cannot be read. -/
theorem result_list_eq : w.result (CommentStore.mk s.path role).list =
    (w.tracker.commentsOf s.id).mapM Comment.ofJson := by
  let docs := w.tracker.commentsOf s.id
  let r : Request := (Request.get (CommentStore.mk s.path role).path).param "maxResults" pageSize
  let page : Json :=
    .ofMembers [("startAt", .num 0), ("total", .num (.int docs.length)), ("comments", .arr docs)]
  have hpage : w.result (.execute r) = .ok page := by
    rw [World.result_execute, s.respond_comments hon.slashFree w.tracker rfl]
    unfold Tracker.commentsRoute
    simp [hon.known, r, page, docs, Request.param, Request.get, Request.settle]
  have hitems : page.itemsAt (.ofKeys ["comments"]) = docs := by
    simp (disch := decide) [page, Json.itemsAt, Json.pointer_ofKeys, Json.follow_cons, Json.get?_ofMembers,
      Json.asArray?]
  rw [list, World.result_bind_ok _ hpage, World.result_done, hitems]

/-- Listing gives what the stored documents are read as. -/
theorem list_eq_ok {comments : List Comment} :
    w.result (CommentStore.mk s.path role).list = .ok comments ↔
      (w.tracker.commentsOf s.id).map Comment.ofJson = comments.map .ok := by
  rw [result_list_eq hon role, mapM_eq_ok]

/-- The answer to a new comment is its document, which is appended under the next number. -/
theorem respond_create (body : String) :
    let store := CommentStore.mk s.path role
    let r : Request := .post store.path (store.bodyDocument body)
    w.tracker.respond r =
      ({ (w.tracker.noted r).putComments s.id (w.tracker.commentsOf s.id ++ [store.document w.tracker body]) with
          nextCommentId := w.tracker.nextCommentId + 1 }, .ok (store.document w.tracker body)) := by
  intro store r
  have hbody : Tracker.bodyOf r = store.bodyDocument body := rfl
  rw [s.respond_comments hon.slashFree w.tracker rfl, Tracker.commentsRoute, if_neg (by simp [hon.known])]
  simp only [hbody, getD_bodyDocument, Json.asString?, Option.getD_some, Tracker.commentsOf_noted]
  rfl

/-- Writing a comment gives it back and appends its document under the next number. -/
theorem create_eq (body : String) :
    let store := CommentStore.mk s.path role
    let r : Request := .post store.path (store.bodyDocument body)
    w.result (store.create body) = Comment.ofJson (store.document w.tracker body) ∧
      w.calls (store.create body) = [r] ∧
      (w.after (store.create body)).tracker =
        { (w.tracker.noted r).putComments s.id (w.tracker.commentsOf s.id ++ [store.document w.tracker body]) with
          nextCommentId := w.tracker.nextCommentId + 1 } := by
  intro store r
  have hrespond := respond_create hon role body
  have hexecute : w.result (.execute r) = .ok (store.document w.tracker body) := by
    rw [World.result_execute, hrespond]
    rfl
  rw [create, World.result_bind_ok _ hexecute, World.after_bind_ok _ hexecute, World.calls_bind_ok _ hexecute]
  exact ⟨rfl, rfl, congrArg Prod.fst hrespond⟩

/-- The comments of the issue are one more. -/
theorem creates (body : String) :
    let store := CommentStore.mk s.path role
    let w' := w.after (store.create body)
    w.result (store.create body) = Comment.ofJson (store.document w.tracker body) ∧
      w.calls (store.create body) = [.post store.path (store.bodyDocument body)] ∧
      s.On w'.tracker ∧
      w'.tracker.commentsOf s.id = w.tracker.commentsOf s.id ++ [store.document w.tracker body] ∧
      w'.tracker.nextCommentId = w.tracker.nextCommentId + 1 := by
  intro store w'
  obtain ⟨hresult, hcalls, hafter⟩ := create_eq hon role body
  refine ⟨hresult, hcalls, ?_⟩
  rw [show w'.tracker = _ from hafter]
  refine ⟨⟨hon.slashFree, hon.known⟩, ?_, rfl⟩
  exact (Tracker.commentsOf_putComments _ _ _ _).trans (if_pos rfl)

end IssueTracker.CommentStore
