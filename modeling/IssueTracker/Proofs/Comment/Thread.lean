import Mathlib.Data.List.Pairwise
import IssueTracker.Proofs.Comment.Numbers
import IssueTracker.Proofs.Comment.Page
import IssueTracker.Proofs.UniqueKeys
/-!
# Threads of comments

The comments of an issue as a tracker keeps them, and what listing, writing and deleting makes
of them. A tracker only ever adds a comment under the next number, so that deleting an id
deletes one comment at most.
-/

namespace IssueTracker

open Tracker (hasId restricted)

/-- Comments that can be read, each with a number of its own below the next one. -/
structure Thread (docs : List Json) (next : Nat) : Prop where
  reads : ∀ doc ∈ docs, ∃ c, Comment.ofJson doc = .ok c
  numbered : ∀ doc ∈ docs, ∃ n < next, doc.get? "id" = some (.str (toString n))
  distinct : docs.Pairwise fun a b => a.get? "id" ≠ b.get? "id"

namespace Thread

variable {docs : List Json} {next : Nat}

theorem nil (next : Nat) : Thread [] next := ⟨by simp, by simp, .nil⟩

theorem filter (h : Thread docs next) (p : Json → Bool) : Thread (docs.filter p) next :=
  ⟨fun doc hdoc => h.reads doc (List.mem_filter.1 hdoc).1, fun doc hdoc => h.numbered doc (List.mem_filter.1 hdoc).1,
    h.distinct.sublist List.filter_sublist⟩

/-- A thread is numbered. -/
theorem toNumbered (h : Thread docs next) : Numbered docs next :=
  ⟨by simpa [idsOf] using h.numbered, List.pairwise_map.2 h.distinct⟩

/-- Numbered comments that can be read are a thread. -/
theorem of_numbered (h : Numbered docs next) (hreads : ∀ doc ∈ docs, ∃ c, Comment.ofJson doc = .ok c) :
    Thread docs next :=
  ⟨hreads, by simpa [idsOf] using h.numbered, List.pairwise_map.1 h.distinct⟩

/-- A new comment has a new number, whatever it is restricted to. -/
theorem append {t : Tracker} (h : Thread docs t.nextCommentId) (author body : String) (request : Json) :
    Thread (docs ++ [restricted request (t.newComment author body)]) (t.nextCommentId + 1) := by
  refine of_numbered (h.toNumbered.append (t.get?_id_newComment author body request)) ?_
  intro doc hdoc
  rcases List.mem_append.1 hdoc with hdoc | hdoc
  · exact h.reads doc hdoc
  · obtain rfl := List.mem_singleton.1 hdoc
    exact ⟨_, (Tracker.ofJson_restricted _ _).trans (t.ofJson_newComment author body)⟩

/-- The id of a comment is the one of its document. -/
theorem id_of_ofJson (h : Thread docs next) {doc : Json} (hdoc : doc ∈ docs) {c : Comment}
    (hc : Comment.ofJson doc = .ok c) : doc.get? "id" = some (.str c.id) ∧ '/' ∉ c.id.toList := by
  obtain ⟨n, -, hid⟩ := h.numbered doc hdoc
  rw [(Comment.of_ofJson hc).2 _ hid]
  exact ⟨hid, notMem_toString (by decide) n⟩

/-- A document is the only one with its id. -/
theorem eq_of_id (h : Thread docs next) {a b : Json} (ha : a ∈ docs) (hb : b ∈ docs)
    (hid : a.get? "id" = b.get? "id") : a = b := by
  have hsymm : Std.Symm fun a b : Json => a.get? "id" ≠ b.get? "id" := ⟨fun _ _ => Ne.symm⟩
  by_contra hne
  exact h.distinct.forall ha hb hne hid

theorem hasId_iff {doc : Json} {id : String} : hasId id doc = true ↔ doc.get? "id" = some (.str id) := by
  rw [hasId, Json.beq_str, Json.getD]
  cases doc.get? "id" with
  | none => simp
  | some value => simp

/-- A comment goes by the id that is read. -/
theorem hasId_of_ofJson (h : Thread docs next) {doc : Json} (hdoc : doc ∈ docs) {c : Comment}
    (hc : Comment.ofJson doc = .ok c) (id : String) : hasId id doc = decide (c.id = id) := by
  rw [Bool.eq_iff_iff, hasId_iff, (h.id_of_ofJson hdoc hc).1, decide_eq_true_iff, Option.some.injEq, Json.str.injEq]

/-- No two comments have the same id. -/
theorem hasId_unique (h : Thread docs next) (id : String) :
    docs.Pairwise fun a b => ¬ (hasId id a = true ∧ hasId id b = true) := by
  refine h.distinct.imp ?_
  rintro a b hne ⟨ha, hb⟩
  exact hne ((hasId_iff.1 ha).trans (hasId_iff.1 hb).symm)

end Thread

/-! ## Single comments -/

namespace CommentStore

variable {w : World} {s : Snapshot} (hs : '/' ∉ s.id.toList) (role : Option String) {id : String} {i : Nat} {doc : Json}
include hs

/-- A comment that the issue does not have cannot be changed. -/
theorem update_absent (habsent : ∀ doc ∈ w.tracker.commentsOf s.id, hasId id doc = false) (body : String) :
    let store := CommentStore.mk s.path role
    (∃ message, w.result (store.update id body) = .error (.status 404 message)) ∧
      (w.after (store.update id body)).tracker.unlogged = w.tracker.unlogged := by
  intro store
  let r : Request := .put (store.commentPath id) (store.bodyDocument body)
  obtain ⟨what, hrespond⟩ := s.respond_noComment hs role w.tracker habsent (r := r) rfl
  have hexecute : w.result (.execute r) = .error (.notFound what) := by
    rw [World.result_execute, hrespond]
    rfl
  rw [update, World.result_bind, World.after_bind_error _ hexecute, hexecute, World.after_execute, World.answered,
    hrespond]
  exact ⟨⟨_, rfl⟩, rfl⟩

/-- A comment that the issue does not have counts as deleted. -/
theorem delete_absent (habsent : ∀ doc ∈ w.tracker.commentsOf s.id, hasId id doc = false) :
    let store := CommentStore.mk s.path role
    w.result (store.delete id) = .ok () ∧ (w.after (store.delete id)).tracker.unlogged = w.tracker.unlogged := by
  intro store
  let r : Request := (Request.delete (store.commentPath id)).onStatus 404 alreadyDeleted
  obtain ⟨what, hrespond⟩ := s.respond_noComment hs role w.tracker habsent (r := r) rfl
  rw [delete, World.result_perform, World.after_perform, World.answered, hrespond]
  exact ⟨rfl, rfl⟩

variable (hid : '/' ∉ id.toList) (hfind : (w.tracker.commentsOf s.id).findIdx? (hasId id) = some i)
include hid hfind

/-- The first comment with the id is changed. -/
theorem update_present (hdoc : (w.tracker.commentsOf s.id)[i]? = some doc) (body : String) :
    let store := CommentStore.mk s.path role
    let r : Request := .put (store.commentPath id) (store.bodyDocument body)
    let changed := Tracker.changeComment (store.bodyDocument body) doc
    w.result (store.update id body) = Comment.ofJson changed ∧
      (w.after (store.update id body)).tracker =
        (w.tracker.noted r).putComments s.id ((w.tracker.commentsOf s.id).set i changed) := by
  intro store r changed
  have hrespond : w.tracker.respond r =
      ((w.tracker.noted r).putComments s.id ((w.tracker.commentsOf s.id).set i changed), .ok changed) := by
    rw [s.respond_comment hs role w.tracker hid rfl, Tracker.commentRoute, Tracker.commentsOf_noted, hfind]
    simp only [hdoc, Option.getD_some]
    rfl
  have hexecute : w.result (.execute r) = .ok changed := by
    rw [World.result_execute, hrespond]
    rfl
  rw [update, World.result_bind_ok _ hexecute, World.after_bind_ok _ hexecute]
  exact ⟨rfl, congrArg Prod.fst hrespond⟩

/-- The first comment with the id is deleted. -/
theorem delete_present :
    let store := CommentStore.mk s.path role
    let r : Request := (Request.delete (store.commentPath id)).onStatus 404 alreadyDeleted
    w.result (store.delete id) = .ok () ∧
      (w.after (store.delete id)).tracker =
        (w.tracker.noted r).putComments s.id ((w.tracker.commentsOf s.id).eraseIdx i) := by
  intro store r
  rw [delete, World.result_perform, World.after_perform, World.answered, s.respond_comment hs role w.tracker hid rfl,
    Tracker.commentRoute, Tracker.commentsOf_noted, hfind]
  exact ⟨rfl, rfl⟩

end CommentStore

/-! ## Threads held by a tracker -/

/-- The comments of a snapshot's issue are a thread. -/
structure World.Holds (w : World) (s : Snapshot) (docs : List Json) : Prop where
  on : s.On w.tracker
  comments_eq : w.tracker.commentsOf s.id = docs
  thread : Thread docs w.tracker.nextCommentId

namespace World.Holds

variable {w w' : World} {s : Snapshot} {docs : List Json}

/-- Remote links have no part in it. -/
theorem of_butRemoteLinks (h : w.Holds s docs) (heq : w'.tracker.butRemoteLinks = w.tracker.butRemoteLinks) :
    w'.Holds s docs := by
  have hcomments := Tracker.commentsOf_of_butRemoteLinks heq s.id
  have hnext : w'.tracker.nextCommentId = w.tracker.nextCommentId := (congrArg Tracker.nextCommentId heq :)
  exact ⟨h.on.of_butRemoteLinks heq, hcomments.trans h.comments_eq, hnext ▸ h.thread⟩

theorem of_unlogged (h : w.Holds s docs) (heq : w'.tracker.unlogged = w.tracker.unlogged) : w'.Holds s docs :=
  h.of_butRemoteLinks (Tracker.butRemoteLinks_of_unlogged heq)

variable (role : Option String)

/-- Listing the comments succeeds. -/
theorem result_list (h : w.Holds s docs) : ∃ comments,
    w.result (CommentStore.mk s.path role).list = .ok comments ∧ docs.map Comment.ofJson = comments.map .ok := by
  obtain ⟨comments, hcomments⟩ := exists_map_ok h.thread.reads
  exact ⟨comments, (CommentStore.list_eq_ok h.on role).2 (h.comments_eq ▸ hcomments), hcomments⟩

/-- Writing a comment succeeds, and appends it. -/
theorem create (h : w.Holds s docs) (body : String) :
    let store := CommentStore.mk s.path role
    ∃ doc c, w.result (store.create body) = .ok c ∧ Comment.ofJson doc = .ok c ∧ c.body = body ∧
      (w.after (store.create body)).Holds s (docs ++ [doc]) := by
  intro store
  obtain ⟨hresult, -, hon, hcomments, hnext⟩ := CommentStore.creates h.on role body
  obtain ⟨c, hread, hbody⟩ := store.ofJson_document w.tracker body
  refine ⟨store.document w.tracker body, c, hresult.trans hread, hread, hbody, hon, ?_, ?_⟩
  · rw [hcomments, h.comments_eq]
  · rw [hnext]
    exact h.thread.append _ _ _

/-- Changing a comment gives it back and changes the one with its id. -/
theorem update (h : w.Holds s docs) {doc : Json} (hdoc : doc ∈ docs) {c : Comment} (hc : Comment.ofJson doc = .ok c)
    (body : String) :
    let store := CommentStore.mk s.path role
    let request := store.bodyDocument body
    w.result (store.update c.id body) = .ok { c with body, updatedAt := Tracker.updatedAt } ∧
      (w.after (store.update c.id body)).tracker =
        (w.tracker.noted (.put (store.commentPath c.id) request)).putComments s.id
          (docs.map fun other => if hasId c.id other then Tracker.changeComment request other else other) := by
  intro store request
  obtain ⟨hget, hslash⟩ := h.thread.id_of_ofJson hdoc hc
  have hhas : hasId c.id doc = true := Thread.hasId_iff.2 hget
  cases hfind : docs.findIdx? (hasId c.id) with
  | none => simp [List.findIdx?_eq_none_iff.1 hfind doc hdoc] at hhas
  | some i =>
    -- The comment that is found is the one with the id.
    obtain ⟨hi, hfound, -⟩ := List.findIdx?_eq_some_iff_getElem.1 hfind
    have hsame : docs[i] = doc :=
      h.thread.eq_of_id (List.getElem_mem hi) hdoc ((Thread.hasId_iff.1 hfound).trans hget.symm)
    have hdoc' : docs[i]? = some doc := by rw [List.getElem?_eq_getElem hi, hsame]
    obtain ⟨hresult, hafter⟩ := CommentStore.update_present h.on.slashFree role hslash
      (h.comments_eq.symm ▸ hfind) (h.comments_eq.symm ▸ hdoc') body
    rw [h.comments_eq, UniqueKeys.set_eq_map (h.thread.hasId_unique c.id) hfind hdoc'] at hafter
    exact ⟨hresult.trans (Tracker.ofJson_changeComment hc (store.getD_bodyDocument body)), hafter⟩

/-- Deleting an id succeeds and deletes the comment with it, if there is one. -/
theorem delete (h : w.Holds s docs) {id : String} (hid : '/' ∉ id.toList) :
    let store := CommentStore.mk s.path role
    w.result (store.delete id) = .ok () ∧
      (w.after (store.delete id)).Holds s (docs.filter (!hasId id ·)) := by
  intro store
  cases hfind : docs.findIdx? (hasId id) with
  | none =>
    have habsent := List.findIdx?_eq_none_iff.1 hfind
    obtain ⟨hresult, hafter⟩ := CommentStore.delete_absent h.on.slashFree role (h.comments_eq.symm ▸ habsent)
    rw [List.filter_eq_self.2 fun doc hdoc => by simp [habsent doc hdoc]]
    exact ⟨hresult, h.of_unlogged hafter⟩
  | some i =>
    obtain ⟨hresult, hafter⟩ := CommentStore.delete_present h.on.slashFree role hid (h.comments_eq.symm ▸ hfind)
    refine ⟨hresult, ?_⟩
    rw [h.comments_eq, UniqueKeys.eraseIdx_eq_filter (h.thread.hasId_unique id) hfind] at hafter
    refine ⟨?_, ?_, ?_⟩ <;> rw [hafter]
    · exact ⟨h.on.slashFree, h.on.known⟩
    · rw [Tracker.commentsOf_putComments, if_pos rfl]
    · exact h.thread.filter _

end World.Holds

end IssueTracker
