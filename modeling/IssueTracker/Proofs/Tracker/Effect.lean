import IssueTracker.Proofs.Routing
/-!
# What an answer does

Every way in which answering a request changes a tracker, in one list. Most changes come with an
answer that accepts them; a change of an issue and a link between issues may end in an error that
leaves a part behind. Statements about all requests are case analyses over the list.
-/

namespace IssueTracker.Tracker

open Json (Pointer)

/-- What becomes of a tracker that answers a request, and the answer. -/
inductive Effect (t : Tracker) (r : Request) : Tracker → Answer → Prop
  | nothing (answer : Answer) : Effect t r t answer
  | change {key : String} {issue : Json} (hmethod : r.method = .put) (hissue : Table.get? key t.issues = some issue) :
      Effect t r (t.putIssue key (changeIssue (bodyOf r) issue).1) (changeIssue (bodyOf r) issue).2
  | assign {key : String} {issue changed assignee : Json} (hissue : Table.get? key t.issues = some issue)
      (hset : withField? "assignee" assignee issue = some changed) : Effect t r (t.putIssue key changed) accepted
  | move {key status : String} {issue changed : Json} (hissue : Table.get? key t.issues = some issue)
      (hset : withStatus? status issue = some changed) : Effect t r (t.putIssue key changed) accepted
  | comment (key text : String) :
      Effect t r
        { t.putComments key (t.commentsOf key ++ [restricted (bodyOf r) (t.newComment t.user text)]) with
          nextCommentId := t.nextCommentId + 1 }
        (.ok (restricted (bodyOf r) (t.newComment t.user text)))
  | edit {key : String} {i : Nat} {comment : Json} (hcomment : (t.commentsOf key)[i]? = some comment) :
      Effect t r (t.putComments key ((t.commentsOf key).set i (changeComment (bodyOf r) comment)))
        (.ok (changeComment (bodyOf r) comment))
  | erase (key : String) (i : Nat) : Effect t r (t.putComments key ((t.commentsOf key).eraseIdx i)) accepted
  | upsert (key : String) (hmethod : r.method = .post) :
      Effect t r (t.upsertRemoteLink key (bodyOf r)).1 (t.upsertRemoteLink key (bodyOf r)).2
  | delete (key id : String) (hmethod : r.method = .delete) :
      Effect t r (t.deleteRemoteLinks key id).1 (t.deleteRemoteLinks key id).2
  | link (hpath : Text.split '/' r.path = ["issueLink"]) (hmethod : r.method = .post) :
      Effect t r (t.issueLinkRoute r).1 (t.issueLinkRoute r).2

variable (t : Tracker) (key : String) (r : Request)

theorem effect_issueRoute : Effect t r (t.issueRoute key r).1 (t.issueRoute key r).2 := by
  unfold issueRoute
  split
  · exact .nothing _
  · rename_i issue hissue
    split
    · exact .nothing _
    · rename_i hmethod
      exact .change hmethod hissue
    · exact .nothing _

theorem effect_assigneeRoute : Effect t r (t.assigneeRoute key r).1 (t.assigneeRoute key r).2 := by
  unfold assigneeRoute
  split
  · exact .nothing _
  · rename_i issue hissue
    dsimp only
    split
    · rename_i changed hset
      exact .assign hissue hset
    · exact .nothing _

theorem effect_commentsRoute : Effect t r (t.commentsRoute key r).1 (t.commentsRoute key r).2 := by
  unfold commentsRoute
  split
  · exact .nothing _
  · split
    · exact .nothing _
    · exact .comment key _
    · exact .nothing _

theorem effect_commentRoute (id : String) : Effect t r (t.commentRoute key id r).1 (t.commentRoute key id r).2 := by
  unfold commentRoute
  dsimp only
  split
  · exact .nothing _
  · rename_i i hi
    obtain ⟨hlt, -, -⟩ := List.findIdx?_eq_some_iff_getElem.1 hi
    have hcomment : (t.commentsOf key)[i]? = some ((t.commentsOf key)[i]?.getD .null) := by
      rw [List.getElem?_eq_getElem hlt, Option.getD_some]
    split
    · exact .nothing _
    · exact .edit hcomment
    · exact .erase key i
    · exact .nothing _

theorem effect_transitionsRoute : Effect t r (t.transitionsRoute key r).1 (t.transitionsRoute key r).2 := by
  unfold transitionsRoute
  split
  · exact .nothing _
  · rename_i issue hissue
    dsimp only
    split
    · exact .nothing _
    · split
      · exact .nothing _
      · split
        · rename_i changed hset
          exact .move hissue hset
        · exact .nothing _
    · exact .nothing _

theorem effect_remoteLinksRoute : Effect t r (t.remoteLinksRoute key r).1 (t.remoteLinksRoute key r).2 := by
  unfold remoteLinksRoute
  split
  · exact .nothing _
  · split
    · split <;> exact .nothing _
    · rename_i hmethod
      exact .upsert key hmethod
    · rename_i hmethod
      exact .delete key _ hmethod
    · exact .nothing _

/-- The key of the issue that a request for a link names at one end. -/
def linkEnd (r : Request) (side : String) : String :=
  (((bodyOf r).pointer (.ofKeys [side, "key"])).bind Json.asString?).getD ""

/-- A link between issues is stored with at most the two that it names, one after the other. What storing an
entry with one of them keeps is kept by all of it, even where it fails halfway. -/
theorem issueLinkRoute_keeps_at {P : Tracker → Prop} {t : Tracker} {r : Request} (h : P t)
    (hstore : ∀ t key issue changed type member other, key ∈ [linkEnd r "inwardIssue", linkEnd r "outwardIssue"] →
      P t → Table.get? key t.issues = some issue →
        withIssueLink? (issueLinkEntry type member other) issue = some changed → P (t.putIssue key changed)) :
    P (t.issueLinkRoute r).1 := by
  have hadd (t : Tracker) (key : String) (type : LinkType) (member other : String)
      (hkey : key ∈ [linkEnd r "inwardIssue", linkEnd r "outwardIssue"]) (h : P t) :
      P (t.addIssueLink key (issueLinkEntry type member other)).1 := by
    unfold addIssueLink
    split
    · exact h
    · rename_i issue hissue
      split
      · rename_i changed hset
        exact hstore _ _ _ _ _ _ _ hkey h hissue hset
      · exact h
  unfold issueLinkRoute
  dsimp only
  rw [← linkEnd, ← linkEnd]
  split
  · exact h
  · rename_i type _
    have hfirst := hadd t (linkEnd r "inwardIssue") type "outwardIssue" (linkEnd r "outwardIssue") (by simp) h
    split
    · rename_i heq
      rwa [heq] at hfirst
    · rename_i t₁ heq
      rw [heq] at hfirst
      have hsecond := hadd t₁ (linkEnd r "outwardIssue") type "inwardIssue" (linkEnd r "inwardIssue") (by simp) hfirst
      split
      · rename_i heq
        rwa [heq] at hsecond
      · rename_i heq
        rwa [heq] at hsecond

/-- What storing an entry with any issue keeps is kept by a link between issues. -/
theorem issueLinkRoute_keeps {P : Tracker → Prop} {t : Tracker} {r : Request} (h : P t)
    (hstore : ∀ t key issue changed type member other, P t → Table.get? key t.issues = some issue →
      withIssueLink? (issueLinkEntry type member other) issue = some changed → P (t.putIssue key changed)) :
    P (t.issueLinkRoute r).1 :=
  issueLinkRoute_keeps_at h fun t key issue changed type member other _ =>
    hstore t key issue changed type member other

/-- Whatever is asked, a tracker writes the request down and then does one of the things in the list. -/
theorem effect_respond : Effect (t.noted r) r (t.respond r).1 (t.respond r).2 := by
  generalize hsegments : Text.split '/' r.path = segments
  rw [respond_eq t r hsegments]
  -- One case for each route, in their order.
  unfold route
  split
  · exact effect_issueRoute _ _ r
  · split
    · exact effect_assigneeRoute _ _ r
    · exact .nothing _
  · exact effect_commentsRoute _ _ r
  · exact effect_commentRoute _ _ r _
  · exact effect_transitionsRoute _ _ r
  · exact effect_remoteLinksRoute _ _ r
  · split
    · rename_i hmethod
      exact .link hsegments hmethod
    · exact .nothing _
  · split <;> exact .nothing _
  · exact .nothing _

end IssueTracker.Tracker
