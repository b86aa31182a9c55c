import IssueTracker.Proofs.Tracker.Fields
import IssueTracker.Proofs.Tracker.Reachable
/-!
# Trackers in order

Whatever happened to a tracker, its issues are filed under their keys and its comments are no issues.
What is fetched and has a key is therefore the document of the issue that goes by this key.
-/

namespace IssueTracker.Tracker

variable {t t' : Tracker} {key : String} {r : Request}

/-- Every issue is filed under its key, and no comment has one. -/
structure Orderly (t : Tracker) : Prop where
  filed : ∀ key issue, Table.get? key t.issues = some issue → Filed key issue
  keyless : ∀ key, ∀ doc ∈ t.commentsOf key, doc.get? "key" = none

namespace Orderly

theorem of_eq (h : t.Orderly) (hissues : t'.issues = t.issues) (hcomments : t'.comments = t.comments) :
    t'.Orderly := by
  refine ⟨?_, ?_⟩
  · rw [hissues]
    exact h.filed
  · unfold commentsOf
    rw [hcomments]
    exact h.keyless

theorem putIssue (h : t.Orderly) {issue : Json} (hissue : Filed key issue) : (t.putIssue key issue).Orderly := by
  refine ⟨fun other issue' hget => ?_, h.keyless⟩
  rw [Tracker.putIssue, Table.get?_insert] at hget
  split at hget
  · rename_i heq
    subst heq
    obtain rfl := Option.some.inj hget
    exact hissue
  · exact h.filed other issue' hget

theorem putComments (h : t.Orderly) {docs : List Json} (hdocs : ∀ doc ∈ docs, doc.get? "key" = none) :
    (t.putComments key docs).Orderly := by
  refine ⟨h.filed, fun other => ?_⟩
  rw [commentsOf_putComments]
  split
  · exact hdocs
  · exact h.keyless other

theorem append (h : t.Orderly) (key author body : String) (request : Json) :
    (t.putComments key (t.commentsOf key ++ [restricted request (t.newComment author body)])).Orderly := by
  refine h.putComments fun doc hdoc => ?_
  rcases List.mem_append.1 hdoc with hdoc | hdoc
  · exact h.keyless key doc hdoc
  · obtain rfl := List.mem_singleton.1 hdoc
    rw [get?_restricted (by decide), get?_newComment]
    simp

/-! ## Answers -/

/-- Whatever an answer does, it leaves the issues under their keys. -/
theorem effect {answer : Answer} (h : t.Orderly) (heffect : Effect t r t' answer) : t'.Orderly := by
  cases heffect with
  | nothing => exact h
  | change _ hissue => exact h.putIssue ((h.filed _ _ hissue).changeIssue _)
  | assign hissue hset => exact h.putIssue (Filed.setting _ _ _ _ _ (h.filed _ _ hissue) hset)
  | move hissue hset => exact h.putIssue ((h.filed _ _ hissue).withStatus? hset)
  | comment key text => exact (h.append key t.user text (bodyOf r)).of_eq rfl rfl
  | @edit key i comment hcomment =>
    refine h.putComments fun doc hdoc => ?_
    rcases List.mem_or_eq_of_mem_set hdoc with hdoc | rfl
    · exact h.keyless key doc hdoc
    · rw [changeComment, get?_restricted (by decide), Json.get?_set_of_ne (by decide), Json.get?_set_of_ne (by decide)]
      exact h.keyless key comment (List.mem_of_getElem? hcomment)
  | erase key i => exact h.putComments fun doc hdoc => h.keyless key doc (List.mem_of_mem_eraseIdx hdoc)
  | upsert key =>
    have hbut := t.butRemoteLinks_upsert key (bodyOf r)
    exact h.of_eq (congrArg issues hbut :) (congrArg comments hbut :)
  | delete key id =>
    have hbut := t.butRemoteLinks_delete key id
    exact h.of_eq (congrArg issues hbut :) (congrArg comments hbut :)
  | link =>
    exact issueLinkRoute_keeps h fun _ _ _ _ _ _ _ ht hissue hset =>
      ht.putIssue ((ht.filed _ _ hissue).withIssueLink? hset)

theorem noted (h : t.Orderly) (r : Request) : (t.noted r).Orderly := h.of_eq rfl rfl

theorem of_unlogged (h : t.Orderly) (heq : t'.unlogged = t.unlogged) : t'.Orderly :=
  h.of_eq (congrArg issues heq :) (congrArg comments heq :)

/-! ## Runs -/

theorem step (h : t.Orderly) (hstep : Step t t') : t'.Orderly := by
  cases hstep with
  | issue key summary status => exact h.putIssue (filed_newIssue t key summary status)
  | @field t' key field value hset =>
    unfold setField? at hset
    split at hset
    · obtain rfl := Option.some.inj hset
      exact h
    · rename_i issue hissue
      obtain ⟨changed, hchanged, rfl⟩ := Option.map_eq_some_iff.1 hset
      exact h.putIssue (Filed.setting key field value issue changed (h.filed _ _ hissue) hchanged)
  | workflow graph => exact h.of_eq rfl rfl
  | linkType type => exact h.of_eq rfl rfl
  | comment key author body => exact (h.append key author body .null).of_eq rfl rfl
  | remoteLink key entry => exact h.of_eq rfl rfl
  | denial => exact h.of_eq rfl rfl
  | clearing => exact h.of_eq rfl rfl
  | answer r => exact (h.noted r).effect (effect_respond t r)

end Orderly

theorem orderly_empty (user : String) : (empty user).Orderly := by
  refine ⟨?_, ?_⟩
  · rintro key issue ⟨⟩
  · intro key doc hdoc
    cases hdoc

theorem Reachable.orderly (h : t.Reachable) : t.Orderly :=
  h.preserves orderly_empty fun _ _ _ ht hstep => ht.step hstep

end IssueTracker.Tracker
