import IssueTracker.Proofs.Comment.Numbers
import IssueTracker.Proofs.Tracker.Reachable
/-!
# Comments but for their bodies

A request may put anything in the place of a comment's body, and nothing else of a comment can be spoilt.
Whatever happened to a tracker, a comment of it whose body is a text can therefore be read.
-/

namespace IssueTracker

/-- A comment of which everything can be read but the body, which may be anything. -/
structure Framed (doc : Json) : Prop where
  id : ∃ id, doc.get? "id" = some (.str id)
  author : ∃ name, doc.stringAt (.ofKeys ["author", "name"]) = .ok name
  created : ∃ time, doc.timestampAt (.ofKeys ["created"]) = .ok time
  updated : ∃ time, doc.timestampAt (.ofKeys ["updated"]) = .ok time

namespace Framed

variable {doc : Json}

/-- With a text for its body the comment can be read. -/
theorem ofJson (h : Framed doc) {body : String} (hbody : doc.get? "body" = some (.str body)) :
    ∃ c, Comment.ofJson doc = .ok c := by
  obtain ⟨id, hid⟩ := h.id
  obtain ⟨name, hname⟩ := h.author
  obtain ⟨created, hcreated⟩ := h.created
  obtain ⟨updated, hupdated⟩ := h.updated
  have hidAt : doc.idAt (.ofKeys ["id"]) = .ok id := by
    rw [Json.idAt, Json.valueAt, Json.pointer_ofKeys, Json.follow_cons (by decide), hid]
    rfl
  exact ⟨⟨id, body, _, created, updated⟩, Comment.ofJson_eq_ok.2
    ⟨⟨name, hname, rfl⟩, hidAt, (Json.stringAt_eq_ok (by decide)).2 hbody, hcreated, hupdated⟩⟩

theorem of_ofJson {id : String} {c : Comment} (hid : doc.get? "id" = some (.str id)) (h : Comment.ofJson doc = .ok c) :
    Framed doc := by
  obtain ⟨⟨name, hname, -⟩, -, -, hcreated, hupdated⟩ := Comment.ofJson_eq_ok.1 h
  exact ⟨⟨id, hid⟩, ⟨name, hname⟩, ⟨_, hcreated⟩, ⟨_, hupdated⟩⟩

theorem new (t : Tracker) (request : Json) (author body : String) :
    Framed (Tracker.restricted request (t.newComment author body)) :=
  of_ofJson (t.get?_id_newComment author body request)
    ((Tracker.ofJson_restricted _ _).trans (t.ofJson_newComment author body))

/-- Whatever a change makes of the body, the rest can still be read. -/
theorem changed (h : Framed doc) (request : Json) : Framed (Tracker.changeComment request doc) := by
  obtain ⟨id, hid⟩ := h.id
  obtain ⟨name, hname⟩ := h.author
  obtain ⟨created, hcreated⟩ := h.created
  have hother {key : String} (hkey : key ∉ ["visibility", "updated", "body"]) :
      (Tracker.changeComment request doc).get? key = doc.get? key := by
    simp only [List.mem_cons, List.not_mem_nil, or_false, not_or] at hkey
    rw [Tracker.changeComment, Tracker.get?_restricted hkey.1, Json.get?_set_of_ne hkey.2.1,
      Json.get?_set_of_ne hkey.2.2]
  have hupdated : (Tracker.changeComment request doc).get? "updated" = some (.str Tracker.updatedStamp) := by
    -- What has an id is an object, which has a place for the time.
    have hbodied : (doc.set "body" (request.getD "body")).get? "id" = some (.str id) :=
      (Json.get?_set_of_ne (by decide) _ _).trans hid
    obtain ⟨stamped, hstamped⟩ := Json.set?_of_get? hbodied "updated" (.str Tracker.updatedStamp)
    rw [Tracker.changeComment, Tracker.get?_restricted (by decide), Json.set, hstamped, Option.getD_some,
      Json.get?_of_set? hstamped, if_pos rfl]
  refine ⟨⟨id, (hother (by decide)).trans hid⟩, ⟨name, ?_⟩, ⟨created, ?_⟩,
    ⟨_, Tracker.timestampAt_member (by decide) hupdated Tracker.parse?_updatedStamp⟩⟩
  · rw [Json.stringAt_congr (by decide) (hother (by decide)), hname]
  · rw [← hcreated, Json.timestampAt, Json.timestampAt, Json.stringAt_congr (by decide) (hother (by decide))]

end Framed

namespace Tracker

/-- All comments of a tracker are of a kind. -/
def CommentsAre (P : Json → Prop) (t : Tracker) : Prop := ∀ key, ∀ doc ∈ t.commentsOf key, P doc

variable {P : Json → Prop} {t t' : Tracker} {key : String}

namespace CommentsAre

theorem of_comments_eq (h : t.CommentsAre P) (heq : t'.comments = t.comments) : t'.CommentsAre P := by
  unfold CommentsAre commentsOf
  rw [heq]
  exact h

theorem put (h : t.CommentsAre P) {docs : List Json} (hdocs : ∀ doc ∈ docs, P doc) (next : Nat) :
    { t.putComments key docs with nextCommentId := next }.CommentsAre P := by
  intro other
  change ∀ doc ∈ (t.putComments key docs).commentsOf other, P doc
  rw [commentsOf_putComments]
  split
  · exact hdocs
  · exact h other

variable (hnew : ∀ t request author body, P (restricted request (newComment t author body)))
include hnew

theorem append (h : t.CommentsAre P) (key author body : String) (request : Json) :
    { t.putComments key (t.commentsOf key ++ [restricted request (t.newComment author body)]) with
      nextCommentId := t.nextCommentId + 1 }.CommentsAre P := by
  refine h.put (fun doc hdoc => ?_) _
  rcases List.mem_append.1 hdoc with hdoc | hdoc
  · exact h key doc hdoc
  · rw [List.mem_singleton.1 hdoc]
    exact hnew t request author body

variable (hchanged : ∀ request doc, P doc → P (changeComment request doc))
include hchanged

/-- Only three effects of an answer concern comments. -/
theorem effect (h : t.CommentsAre P) {r : Request} {answer : Answer} (heffect : Effect t r t' answer) :
    t'.CommentsAre P := by
  cases heffect with
  | nothing => exact h
  | change => exact h
  | assign => exact h
  | move => exact h
  | comment key text => exact h.append hnew key t.user text _
  | edit hcomment =>
    refine h.put (fun doc hdoc => ?_) _
    rcases List.mem_or_eq_of_mem_set hdoc with hdoc | rfl
    · exact h _ doc hdoc
    · exact hchanged _ _ (h _ _ (List.mem_of_getElem? hcomment))
  | erase key i => exact h.put (fun doc hdoc => h key doc (List.mem_of_mem_eraseIdx hdoc)) _
  | upsert key => exact h.of_comments_eq (congrArg Tracker.comments (t.butRemoteLinks_upsert key _) :)
  | delete key id => exact h.of_comments_eq (congrArg Tracker.comments (t.butRemoteLinks_delete key id) :)
  | link => exact issueLinkRoute_keeps (P := CommentsAre P) h fun _ _ _ _ _ _ _ ht _ _ => ht

theorem step (h : t.CommentsAre P) (hstep : Step t t') : t'.CommentsAre P := by
  cases hstep with
  | field hset => exact h.of_comments_eq (congrArg Prod.fst (threads_setField? hset))
  | comment key author body => exact h.append hnew key author body .null
  | answer r =>
    have hnoted : (t.noted r).CommentsAre P := h
    exact hnoted.effect hnew hchanged (effect_respond t r)
  | _ => exact h

end CommentsAre

/-- What every new comment has and no change takes away, all comments have. -/
theorem Reachable.commentsAre (h : t.Reachable)
    (hnew : ∀ t request author body, P (restricted request (newComment t author body)))
    (hchanged : ∀ request doc, P doc → P (changeComment request doc)) : t.CommentsAre P :=
  h.preserves (fun _ _ _ hdoc => absurd hdoc List.not_mem_nil) fun _ _ _ ht hstep => ht.step hnew hchanged hstep

theorem Reachable.framed (h : t.Reachable) : t.CommentsAre Framed :=
  h.commentsAre Framed.new fun request _ hdoc => hdoc.changed request

end Tracker

end IssueTracker
