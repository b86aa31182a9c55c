import Mathlib.Logic.Function.Basic
import IssueTracker.Proofs.Comment.Apart
import IssueTracker.Proofs.Comment.Thread
import IssueTracker.Proofs.Operation.Frame
/-!
# Comments as lists

A board has one list of comments for every issue. Whatever is listed, written, changed and removed through
snapshots, and whatever others write besides, a tracker answers as its board does: a new comment goes to the end
of its list under a new id, a change leaves everything but the body and the time of change, and what is removed
does not come back.
-/

namespace IssueTracker

/-- A comment with another body. -/
def Comment.revised (c : Comment) (body : String) : Comment := { c with body, updatedAt := Tracker.updatedAt }

/-! ## Boards -/

/-- What is done with the comments of an issue. -/
inductive Remark where
  | list
  | add (body : String)
  | edit (id body : String)
  | remove (id : String)

/-- The action of a snapshot that does it. -/
def Remark.action : Remark → Action
  | list => .comments
  | add body => .addComment body
  | edit id body => .updateComment id body
  | remove id => .removeComment id

/-- The comments of every issue, oldest first, who writes the new ones, and the number of the next. -/
structure Board where
  user : String
  next : Nat
  threads : String → List Comment

namespace Board

variable (b : Board) (key : String)

/-- The next comment, if it is an author's. -/
def written (author body : String) : Comment :=
  ⟨toString b.next, body, .ofAccount author (Tracker.displayName author), Tracker.createdAt, Tracker.createdAt⟩

/-- Replaces the comments of an issue. -/
def put (comments : List Comment) : Board := { b with threads := Function.update b.threads key comments }

/-- Adds an author's comment. -/
def post (author body : String) : Board :=
  { b.put key (b.threads key ++ [b.written author body]) with next := b.next + 1 }

/-- The board after something was done with the comments of an issue. -/
def after : Remark → Board
  | .list => b
  | .add body => b.post key b.user body
  | .edit id body => b.put key ((b.threads key).map fun c => if c.id = id then c.revised body else c)
  | .remove id => b.put key ((b.threads key).filter fun c => c.id ≠ id)

theorem threads_put (comments : List Comment) (other : String) :
    (b.put key comments).threads other = if other = key then comments else b.threads other :=
  Function.update_apply b.threads key comments other

theorem present_or_absent (id : String) :
    (∃ c ∈ b.threads key, c.id = id) ∨ ∀ c ∈ b.threads key, c.id ≠ id := by
  by_cases h : ∃ c ∈ b.threads key, c.id = id
  · exact .inl h
  · exact .inr fun c hc heq => h ⟨c, hc, heq⟩

variable {b key} {id : String} (habsent : ∀ c ∈ b.threads key, c.id ≠ id)
include habsent

theorem after_edit_absent (body : String) : b.after key (.edit id body) = b := by
  have hsame : (b.threads key).map (fun c => if c.id = id then c.revised body else c) = b.threads key :=
    (List.map_congr_left fun c hc => if_neg (habsent c hc)).trans (List.map_id' _)
  rw [after, hsame, put, Function.update_eq_self]

theorem after_remove_absent : b.after key (.remove id) = b := by
  have hsame : (b.threads key).filter (fun c => c.id ≠ id) = b.threads key :=
    List.filter_eq_self.2 fun c hc => decide_eq_true (habsent c hc)
  rw [after, hsame, put, Function.update_eq_self]

end Board

/-! ## Trackers with the comments of a board -/

/-- A tracker whose comments are read as those of the board. -/
structure Board.Describes (b : Board) (t : Tracker) : Prop where
  user : t.user = b.user
  next : t.nextCommentId = b.next
  threads : ∀ key, (t.commentsOf key).map Comment.ofJson = (b.threads key).map .ok

namespace Board.Describes

variable {b : Board} {t t' : Tracker} {key id : String} {c : Comment} (h : b.Describes t)
include h

theorem of_unlogged (heq : t'.unlogged = t.unlogged) : b.Describes t' := by
  refine ⟨(Tracker.user_of_unlogged heq).trans h.user, (Tracker.nextCommentId_of_unlogged heq).trans h.next,
    fun key => ?_⟩
  rw [Tracker.commentsOf_of_unlogged heq]
  exact h.threads key

theorem noted (r : Request) : b.Describes (t.noted r) := h.of_unlogged rfl

theorem put {docs : List Json} {comments : List Comment} (hdocs : docs.map Comment.ofJson = comments.map .ok) :
    (b.put key comments).Describes (t.putComments key docs) := by
  refine ⟨h.user, h.next, fun other => ?_⟩
  rw [Tracker.commentsOf_putComments, threads_put]
  split
  · exact hdocs
  · exact h.threads other

/-- What is read of a new document is the next comment. -/
theorem ofJson_written (author body : String) (request : Json) :
    Comment.ofJson (Tracker.restricted request (t.newComment author body)) = .ok (b.written author body) := by
  rw [Tracker.ofJson_restricted, Tracker.ofJson_newComment, h.next, written]

/-- A new comment of an author goes to the end, whatever it is restricted to. -/
theorem post (key author body : String) (request : Json) : (b.post key author body).Describes
    { t.putComments key (t.commentsOf key ++ [Tracker.restricted request (t.newComment author body)]) with
      nextCommentId := t.nextCommentId + 1 } := by
  have hdocs : (t.commentsOf key ++ [Tracker.restricted request (t.newComment author body)]).map Comment.ofJson =
      (b.threads key ++ [b.written author body]).map .ok := by
    rw [List.map_append, List.map_append, h.threads, List.map_singleton, List.map_singleton, h.ofJson_written]
  exact ⟨h.user, congrArg (· + 1) h.next, (h.put hdocs).threads⟩

variable (ht : t.CommentsNumbered)
include ht

theorem thread (key : String) : Thread (t.commentsOf key) t.nextCommentId :=
  .of_numbered (ht key) fun _ hdoc => (result_of_mem (h.threads key) hdoc).imp fun _ => And.right

theorem hasId_eq_false (habsent : ∀ c ∈ b.threads key, c.id ≠ id) :
    ∀ doc ∈ t.commentsOf key, Tracker.hasId id doc = false := by
  intro doc hdoc
  obtain ⟨c, hc, hread⟩ := result_of_mem (h.threads key) hdoc
  rw [(h.thread ht key).hasId_of_ofJson hdoc hread, decide_eq_false (habsent c hc)]

theorem slashFree (hc : c ∈ b.threads key) : '/' ∉ c.id.toList := by
  obtain ⟨doc, hdoc, hread⟩ := source_of_mem (h.threads key) hc
  exact ((h.thread ht key).id_of_ofJson hdoc hread).2

end Board.Describes

/-! ## Single remarks -/

/-- An issue that was there is there after every change. -/
theorem Tracker.Scope.Covers.on {c : Scope} {t t' : Tracker} {s : Snapshot} (h : c.Covers t t') (hs : s.On t) :
    s.On t' := by
  obtain ⟨issue, hissue⟩ := Option.isSome_iff_exists.1 hs.known
  obtain ⟨changed, hchanged, -⟩ := h.exists_issue hissue
  exact ⟨hs.slashFree, Option.isSome_iff_exists.2 ⟨changed, hchanged⟩⟩

section Remarks

variable {b : Board} {w : World} {s : Snapshot} {id : String} (h : b.Describes w.tracker)
  (hw : w.tracker.CommentsNumbered) (hon : s.On w.tracker) (p : Project)
include h hon

theorem Board.Describes.result_comments : w.result (s.comments p) = .ok (b.threads s.id) :=
  (CommentStore.list_eq_ok hon p.visibilityRole).2 (h.threads s.id)

/-- A new comment is given back as it is shown. -/
theorem Board.Describes.addComment (body : String) : w.result (s.addComment p body) = .ok (b.written b.user body) ∧
    (b.post s.id b.user body).Describes (w.after (s.addComment p body)).tracker := by
  obtain ⟨hresult, -, hafter⟩ := CommentStore.create_eq hon p.visibilityRole body
  refine ⟨hresult.trans ?_, ?_⟩
  · rw [← h.user]
    exact h.ofJson_written _ _ _
  · rw [show (w.after (s.addComment p body)).tracker = _ from hafter, ← h.user]
    exact (h.noted _).post s.id w.tracker.user body _

include hw

theorem Board.Describes.holds : w.Holds s (w.tracker.commentsOf s.id) := ⟨hon, rfl, h.thread hw s.id⟩

/-- A comment that is there is changed and given back as it is shown. -/
theorem Board.Describes.updateComment {c : Comment} (hc : c ∈ b.threads s.id) (body : String) :
    w.result (s.updateComment p c.id body) = .ok (c.revised body) ∧
      (b.after s.id (.edit c.id body)).Describes (w.after (s.updateComment p c.id body)).tracker := by
  obtain ⟨doc, hdoc, hread⟩ := source_of_mem (h.threads s.id) hc
  obtain ⟨hresult, hafter⟩ := (h.holds hw hon).update p.visibilityRole hdoc hread body
  refine ⟨hresult, ?_⟩
  rw [show (w.after (s.updateComment p c.id body)).tracker = _ from hafter]
  refine (h.noted _).put ?_
  rw [List.map_map, List.map_map]
  refine map_of_results (h.threads s.id) fun other hother c' hread' => ?_
  simp only [Function.comp_apply, (h.thread hw s.id).hasId_of_ofJson hother hread', decide_eq_true_eq]
  split
  · exact Tracker.ofJson_changeComment hread' (CommentStore.getD_bodyDocument _ body)
  · exact hread'

/-- What is not there cannot be changed. -/
theorem Board.Describes.updateComment_absent (habsent : ∀ c ∈ b.threads s.id, c.id ≠ id) (body : String) :
    (∃ message, w.result (s.updateComment p id body) = .error (.status 404 message)) ∧
      (w.after (s.updateComment p id body)).tracker.unlogged = w.tracker.unlogged :=
  CommentStore.update_absent hon.slashFree p.visibilityRole (h.hasId_eq_false hw habsent) body

/-- What is not there counts as removed. -/
theorem Board.Describes.removeComment_absent (habsent : ∀ c ∈ b.threads s.id, c.id ≠ id) :
    w.result (s.removeComment p id) = .ok () ∧
      (w.after (s.removeComment p id)).tracker.unlogged = w.tracker.unlogged :=
  CommentStore.delete_absent hon.slashFree p.visibilityRole (h.hasId_eq_false hw habsent)

/-- A comment is removed, if it is there. -/
theorem Board.Describes.removeComment (id : String) : w.result (s.removeComment p id) = .ok () ∧
    (b.after s.id (.remove id)).Describes (w.after (s.removeComment p id)).tracker := by
  rcases b.present_or_absent s.id id with ⟨c, hc, rfl⟩ | habsent
  · obtain ⟨doc, hdoc, hread⟩ := source_of_mem (h.threads s.id) hc
    have hthread := h.thread hw s.id
    cases hfind : (w.tracker.commentsOf s.id).findIdx? (Tracker.hasId c.id) with
    | none =>
      have hhas := hthread.hasId_of_ofJson hdoc hread c.id
      simp [List.findIdx?_eq_none_iff.1 hfind doc hdoc] at hhas
    | some i =>
      obtain ⟨hresult, hafter⟩ :=
        CommentStore.delete_present hon.slashFree p.visibilityRole (h.slashFree hw hc) hfind
      rw [UniqueKeys.eraseIdx_eq_filter (hthread.hasId_unique c.id) hfind] at hafter
      refine ⟨hresult, ?_⟩
      rw [show (w.after (s.removeComment p c.id)).tracker = _ from hafter]
      refine (h.noted _).put (filter_of_results (h.threads s.id) fun other hother c' hread' => ?_)
      rw [hthread.hasId_of_ofJson hother hread', decide_not]
  · obtain ⟨hresult, hafter⟩ := h.removeComment_absent hw hon p habsent
    rw [Board.after_remove_absent habsent]
    exact ⟨hresult, h.of_unlogged hafter⟩

/-- Whatever is done with the comments, the tracker goes on as the board does. -/
theorem Board.Describes.after (r : Remark) :
    (b.after s.id r).Describes (w.after (r.action.program p s)).tracker := by
  cases r with
  | list => exact h.of_unlogged (World.unlogged_after (CommentStore.reads_list _) w)
  | add body => exact (h.addComment hon p body).2
  | edit id body =>
    rcases b.present_or_absent s.id id with ⟨c, hc, rfl⟩ | habsent
    · exact (h.updateComment hw hon p hc body).2
    · rw [Board.after_edit_absent habsent]
      exact h.of_unlogged (h.updateComment_absent hw hon p habsent body).2
  | remove id => exact (h.removeComment hw hon p id).2

end Remarks

/-! ## Earlier boards -/

/-- A comment that is another one but for its body and its time of change. -/
def Comment.IsOf (c old : Comment) : Prop := c.id = old.id ∧ c.author = old.author ∧ c.createdAt = old.createdAt

/-- Every comment of a later board is one of the same issue, or its id is new. -/
structure Board.Precedes (first b : Board) : Prop where
  next_le : first.next ≤ b.next
  origin : ∀ key, ∀ c ∈ b.threads key, (∃ old ∈ first.threads key, c.IsOf old) ∨ ∃ n, first.next ≤ n ∧ c.id = toString n

namespace Board.Precedes

variable {first b : Board} {key : String}

theorem refl (b : Board) : b.Precedes b :=
  ⟨Nat.le_refl _, fun _ c hc => .inl ⟨c, hc, rfl, rfl, rfl⟩⟩

variable (h : first.Precedes b)
include h

/-- A list may become one of its own comments and of new ones. -/
theorem put {comments : List Comment}
    (hcomments : ∀ c ∈ comments, (∃ old ∈ b.threads key, c.IsOf old) ∨ ∃ n, first.next ≤ n ∧ c.id = toString n) :
    first.Precedes (b.put key comments) := by
  refine ⟨h.next_le, fun other c hc => ?_⟩
  rw [threads_put] at hc
  split at hc
  · rename_i heq
    subst heq
    rcases hcomments c hc with ⟨old, hold, hof⟩ | hnew
    · refine (h.origin other old hold).imp ?_ fun ⟨n, hn, hid⟩ => ⟨n, hn, hof.1.trans hid⟩
      rintro ⟨oldest, holdest, hof'⟩
      exact ⟨oldest, holdest, hof.1.trans hof'.1, hof.2.1.trans hof'.2.1, hof.2.2.trans hof'.2.2⟩
    · exact .inr hnew
  · exact h.origin other c hc

theorem post (key author body : String) : first.Precedes (b.post key author body) := by
  refine ⟨Nat.le_succ_of_le h.next_le, (h.put fun c hc => ?_).origin⟩
  rcases List.mem_append.1 hc with hc | hc
  · exact .inl ⟨c, hc, rfl, rfl, rfl⟩
  · obtain rfl := List.mem_singleton.1 hc
    exact .inr ⟨b.next, h.next_le, rfl⟩

theorem after (r : Remark) : first.Precedes (b.after key r) := by
  cases r with
  | list => exact h
  | add body => exact h.post key b.user body
  | edit id body =>
    refine h.put fun c hc => .inl ?_
    obtain ⟨old, hold, rfl⟩ := List.mem_map.1 hc
    refine ⟨old, hold, ?_⟩
    split <;> exact ⟨rfl, rfl, rfl⟩
  | remove id => exact h.put fun c hc => .inl ⟨c, (List.mem_filter.1 hc).1, rfl, rfl, rfl⟩

/-- What is listed under an id that was given before was listed under it then. -/
theorem exists_old {c : Comment} (hc : c ∈ b.threads key) {n : Nat} (hn : n < first.next) (hid : c.id = toString n) :
    ∃ old ∈ first.threads key, c.IsOf old := by
  refine (h.origin key c hc).resolve_right ?_
  rintro ⟨m, hm, heq⟩
  have hsame := toString_nat_injective (hid.symm.trans heq)
  omega

end Board.Precedes

/-! ## Runs -/

/-- A run of remarks by any snapshots of issues that are there, and of comments that others add directly. -/
inductive Discussion (start : World) (first : Board) : World → Board → Prop
  | start : Discussion start first start first
  | remark {w : World} {b : Board} {s : Snapshot} (run : Discussion start first w b) (on : s.On w.tracker)
      (p : Project) (r : Remark) : Discussion start first (w.after (r.action.program p s)) (b.after s.id r)
  | direct {w : World} {b : Board} (run : Discussion start first w b) (key author body : String) :
      Discussion start first ⟨(w.tracker.addComment key author body).1, w.memory⟩ (b.post key author body)

/-- A snapshot's comments are those of a board, and every remark on them is answered accordingly. -/
structure World.Follows (w : World) (p : Project) (s : Snapshot) (b : Board) : Prop where
  lists : w.result (s.comments p) = .ok (b.threads s.id)
  adds : ∀ body, w.result (s.addComment p body) = .ok (b.written b.user body)
  edits : ∀ c ∈ b.threads s.id, ∀ body, w.result (s.updateComment p c.id body) = .ok (c.revised body)
  refuses : ∀ id, (∀ c ∈ b.threads s.id, c.id ≠ id) → ∀ body,
    (∃ message, w.result (s.updateComment p id body) = .error (.status 404 message)) ∧
      (w.after (s.updateComment p id body)).tracker.unlogged = w.tracker.unlogged
  removes : ∀ id, w.result (s.removeComment p id) = .ok ()
  ignores : ∀ id, (∀ c ∈ b.threads s.id, c.id ≠ id) →
    (w.after (s.removeComment p id)).tracker.unlogged = w.tracker.unlogged
  shows : ∀ r : Remark,
    (w.after (r.action.program p s)).result (s.comments p) = .ok ((b.after s.id r).threads s.id)

/-- Every comment has an id of its own, which is a number below the next one. -/
structure Board.Identified (b : Board) : Prop where
  numbered : ∀ key, ∀ c ∈ b.threads key, ∃ n < b.next, c.id = toString n
  distinct : ∀ key, ((b.threads key).map Comment.id).Nodup
  apart : ∀ key key', key ≠ key' → ∀ c ∈ b.threads key, ∀ c' ∈ b.threads key', c.id ≠ c'.id

/-- A comment is answered with the number under which it is shown. -/
theorem Board.Describes.addComment_direct {b : Board} {t : Tracker} (h : b.Describes t) (key author body : String) :
    (t.addComment key author body).2 = (b.written author body).id :=
  congrArg toString h.next

theorem Board.Describes.follows {b : Board} {w : World} {s : Snapshot} (h : b.Describes w.tracker)
    (hw : w.tracker.CommentsNumbered) (hon : s.On w.tracker) (p : Project) : w.Follows p s b where
  lists := h.result_comments hon p
  adds body := (h.addComment hon p body).1
  edits _ hc body := (h.updateComment hw hon p hc body).1
  refuses _ habsent := h.updateComment_absent hw hon p habsent
  removes id := (h.removeComment hw hon p id).1
  ignores _ habsent := (h.removeComment_absent hw hon p habsent).2
  shows r := (h.after hw hon p r).result_comments ((Action.covers_after hon.slashFree p r.action w).on hon) p

/-- Ids are as different as those of the documents. -/
theorem Board.Describes.identified {b : Board} {t : Tracker} (h : b.Describes t) (ht : t.CommentsNumbered)
    (hapart : t.CommentsApart) : b.Identified := by
  have hids (key : String) :
      idsOf (t.commentsOf key) = (b.threads key).map fun c => some (.str c.id) :=
    map_of_results (h.threads key) fun doc hdoc c hread => ((h.thread ht key).id_of_ofJson hdoc hread).1
  have hmem {key : String} {c : Comment} (hc : c ∈ b.threads key) :
      some (.str c.id) ∈ idsOf (t.commentsOf key) := by
    rw [hids]
    exact List.mem_map_of_mem hc
  refine ⟨fun key c hc => ?_, fun key => ?_, fun key key' hne c hc c' hc' heq => ?_⟩
  · obtain ⟨n, hn, heq⟩ := (ht key).numbered _ (hmem hc)
    exact ⟨n, h.next ▸ hn, Json.str.inj (Option.some.inj heq)⟩
  · have hdistinct := (ht key).distinct
    rw [hids] at hdistinct
    refine List.Nodup.of_map (fun id => some (Json.str id)) ?_
    rwa [List.map_map]
  · exact hapart key key' hne _ (hmem hc) (heq ▸ hmem hc')

namespace Discussion

variable {start w : World} {first b : Board} (hrun : Discussion start first w b)
include hrun

theorem reachable (hstart : start.tracker.Reachable) : w.tracker.Reachable := by
  induction hrun with
  | start => exact hstart
  | remark _ _ p r ih => exact ih.after _
  | direct _ key author body ih => exact ih.step (.comment _ key author body)

theorem describes (hstart : start.tracker.Reachable) (hfirst : first.Describes start.tracker) :
    b.Describes w.tracker := by
  induction hrun with
  | start => exact hfirst
  | remark hrun hon p r ih => exact ih.after (hrun.reachable hstart).commentsNumbered hon p r
  | direct _ key author body ih => exact ih.post key author body .null

/-- No issue is lost. -/
theorem on {s : Snapshot} (hs : s.On start.tracker) : s.On w.tracker := by
  induction hrun with
  | start => exact hs
  | remark _ hon p r ih => exact (Action.covers_after hon.slashFree p r.action _).on ih
  | direct _ key author body ih => exact ⟨ih.slashFree, ih.known⟩

/-- Comments keep their ids, and new ones get new ids. -/
theorem precedes : first.Precedes b := by
  induction hrun with
  | start => exact .refl first
  | remark _ _ p r ih => exact ih.after r
  | direct _ key author body ih => exact ih.post key author body

/-- In a tracker that can be reached and whose comments can be read, the comments of every issue are one list,
whatever was written, changed and removed so far, and by whom. Every snapshot lists all of it and is answered as
the list has it, and what is not on the list is neither changed nor removed. No two comments have the same id, no
id has a slash, and what is listed later under an id that was given before is the comment that had it. -/
theorem behaves_as_lists (hstart : start.tracker.Reachable) (hfirst : first.Describes start.tracker) :
    (∀ (p : Project) (s : Snapshot), s.On w.tracker → w.Follows p s b) ∧
      (∀ s : Snapshot, s.On start.tracker → s.On w.tracker) ∧
      (∀ key author body, (w.tracker.addComment key author body).2 = (b.written author body).id) ∧
      b.Identified ∧ (∀ id, '/' ∈ id.toList → ∀ key, ∀ c ∈ b.threads key, c.id ≠ id) ∧
      ∀ w' b', Discussion w b w' b' → ∀ key, ∀ c ∈ b'.threads key, ∀ n < b.next, c.id = toString n →
        ∃ old ∈ b.threads key, c.IsOf old := by
  have hreachable := hrun.reachable hstart
  have hnumbered := hreachable.commentsNumbered
  have hdescribes := hrun.describes hstart hfirst
  refine ⟨fun p s hon => hdescribes.follows hnumbered hon p, fun s hs => hrun.on hs, hdescribes.addComment_direct,
    hdescribes.identified hnumbered hreachable.commentsApart, ?_, ?_⟩
  · rintro _ hslash key c hc rfl
    exact hdescribes.slashFree hnumbered hc hslash
  · exact fun w' b' hlater key c hc n hn hid => hlater.precedes.exists_old hc hn hid

end Discussion

/-- A comment is written, another author adds one without text, and the first is changed. -/
theorem Discussion.behaves_as_lists_of_edit :
    let p : Project := ⟨.repository, none, .standard⟩
    let start : World := ⟨.ofIssue "X-1" "Open" [], none⟩
    let s := Snapshot.ofIssue "X-1" "Open"
    let first : Board := ⟨"duke", 10000, fun _ => []⟩
    start.tracker.Reachable ∧ first.Describes start.tracker ∧ ∃ w b, Discussion start first w b ∧
      w.result (s.comments p) = .ok [
        ⟨"10000", "Pushed\nto a branch", .ofAccount "duke" (Tracker.displayName "duke"), Tracker.createdAt,
          Tracker.updatedAt⟩,
        ⟨"10001", "", .ofAccount "ana" (Tracker.displayName "ana"), Tracker.createdAt, Tracker.createdAt⟩] ∧
      (∃ message, w.result (s.updateComment p "10002" "") = .error (.status 404 message)) ∧
      w.result (s.removeComment p "a/b") = .ok () := by
  intro p start s first
  have hstart : start.tracker.Reachable := Tracker.reachable_ofIssue "X-1" "Open" []
  have hfirst : first.Describes start.tracker := ⟨rfl, rfl, fun _ => rfl⟩
  have hon : s.On start.tracker := ⟨by decide, by decide +kernel⟩
  have hbegin : Discussion start first start first := .start
  have hwritten := (hbegin.remark hon p (.add "Pushed")).direct "X-1" "ana" ""
  have hrun := hwritten.remark (hwritten.on hon) p (.edit "10000" "Pushed\nto a branch")
  have hfollows := (hrun.behaves_as_lists hstart hfirst).1 p s (hrun.on hon)
  refine ⟨hstart, hfirst, _, _, hrun, hfollows.lists.trans (congrArg Except.ok ?_), ?_, hfollows.removes _⟩
  · have hids : Nat.repr 10000 = "10000" ∧ Nat.repr 10001 = "10001" := by decide +kernel
    simp [Board.after, Board.post, Board.put, Board.written, Comment.revised, first, s, Snapshot.ofIssue, hids]
  · exact (hfollows.refuses "10002" (by decide +kernel) "").1

end IssueTracker
