import IssueTracker.Proofs.Tracker.Reachable
/-!
# Comments of different issues

One counter numbers the comments of all issues, so that an id belongs to one issue at most. A comment never
moves: only what is new has an id that no issue has, and it has the next number.
-/

namespace IssueTracker.Tracker

variable {t t' : Tracker} {key : String}

/-- No two issues have comments with the same id. -/
def CommentsApart (t : Tracker) : Prop :=
  ∀ key key', key ≠ key' → ∀ id ∈ idsOf (t.commentsOf key), id ∉ idsOf (t.commentsOf key')

namespace CommentsApart

/-- The comments of an issue may become others that have its ids or ids of no issue. -/
theorem put (h : t.CommentsApart) {docs : List Json}
    (hdocs : ∀ id ∈ idsOf docs, id ∈ idsOf (t.commentsOf key) ∨ ∀ other, id ∉ idsOf (t.commentsOf other))
    (next : Nat) : { t.putComments key docs with nextCommentId := next }.CommentsApart := by
  have hother {other : String} (hne : key ≠ other) : ∀ id ∈ idsOf docs, id ∉ idsOf (t.commentsOf other) := by
    intro id hid hmem
    rcases hdocs id hid with hold | hnew
    · exact h key other hne id hold hmem
    · exact hnew other hmem
  intro first second hne
  change ∀ id ∈ idsOf ((t.putComments key docs).commentsOf first),
    id ∉ idsOf ((t.putComments key docs).commentsOf second)
  rw [commentsOf_putComments, commentsOf_putComments]
  split
  · rename_i hfirst
    subst hfirst
    rw [if_neg (Ne.symm hne)]
    exact hother hne
  · split
    · rename_i hsecond
      subst hsecond
      exact fun id hid hmem => hother (Ne.symm hne) id hmem hid
    · exact h first second hne

/-- A new comment has an id of no issue, whatever it is restricted to. -/
theorem append (h : t.CommentsApart) (hnumbered : t.CommentsNumbered) (key author body : String) (request : Json) :
    { t.putComments key (t.commentsOf key ++ [restricted request (t.newComment author body)]) with
      nextCommentId := t.nextCommentId + 1 }.CommentsApart := by
  refine h.put (fun id hid => ?_) _
  rw [idsOf, List.map_append, List.map_singleton, get?_id_newComment] at hid
  rcases List.mem_append.1 hid with hid | hid
  · exact .inl hid
  · obtain rfl := List.mem_singleton.1 hid
    exact .inr fun other => (hnumbered other).next_notMem

theorem of_comments_eq (h : t.CommentsApart) (heq : t'.comments = t.comments) : t'.CommentsApart := by
  unfold CommentsApart commentsOf
  rw [heq]
  exact h

/-- Whatever an answer does, no comment gets the id of another issue's. -/
theorem effect (h : t.CommentsApart) (hnumbered : t.CommentsNumbered) {r : Request} {answer : Answer}
    (heffect : Effect t r t' answer) : t'.CommentsApart := by
  cases heffect with
  | nothing => exact h
  | change => exact h
  | assign => exact h
  | move => exact h
  | comment key text => exact h.append hnumbered key t.user text _
  | edit hcomment =>
    refine h.put (fun id hid => .inl ?_) _
    rwa [idsOf_set hcomment (get?_id_changeComment _ _)] at hid
  | erase key i => exact h.put (fun id hid => .inl (((List.eraseIdx_sublist _ i).map _).mem hid)) _
  | upsert key => exact h.of_comments_eq (congrArg Tracker.comments (t.butRemoteLinks_upsert key _) :)
  | delete key id => exact h.of_comments_eq (congrArg Tracker.comments (t.butRemoteLinks_delete key id) :)
  | link => exact issueLinkRoute_keeps (P := CommentsApart) h fun _ _ _ _ _ _ _ ht _ _ => ht

theorem step (h : t.CommentsApart) (hnumbered : t.CommentsNumbered) (hstep : Step t t') : t'.CommentsApart := by
  cases hstep with
  | field hset => exact h.of_comments_eq (congrArg Prod.fst (threads_setField? hset))
  | comment key author body => exact h.append hnumbered key author body .null
  | answer r =>
    have hnoted : (t.noted r).CommentsNumbered := hnumbered
    exact effect (t := t.noted r) h hnoted (effect_respond t r)
  | _ => exact h

end CommentsApart

/-- Issues of a tracker that can be reached have no comments with the same id. -/
theorem Reachable.commentsApart (h : t.Reachable) : t.CommentsApart :=
  h.preserves (fun _ _ _ _ _ hid _ => List.not_mem_nil hid) fun _ _ hreachable ht hstep =>
    ht.step hreachable.commentsNumbered hstep

end IssueTracker.Tracker
