import Mathlib.Logic.Relation
import IssueTracker.Proofs.Comment.Numbers
import IssueTracker.Proofs.Sends
import IssueTracker.Proofs.Text.Lines
import IssueTracker.Proofs.Tracker.Effect
/-!
# Trackers that can be reached

The trackers that come about: an empty one into which issues and the like were put, and which
answered requests of any kind. Whatever happened to it, the comments of each of its issues are
numbered, since the next number only ever grows. So no path leads to a comment by another name, and
what can be listed belongs to an issue that is there.
-/

namespace IssueTracker

theorem Numbered.mono {docs : List Json} {next next' : Nat} (h : Numbered docs next) (hle : next ≤ next') :
    Numbered docs next' := by
  refine ⟨fun id hid => ?_, h.distinct⟩
  obtain ⟨n, hn, heq⟩ := h.numbered id hid
  exact ⟨n, Nat.lt_of_lt_of_le hn hle, heq⟩

/-- No comment has an id that is no number. -/
theorem Numbered.hasId_eq_false {docs : List Json} {next : Nat} (h : Numbered docs next) {id : String}
    (hid : ∀ n : Nat, toString n ≠ id) : ∀ doc ∈ docs, Tracker.hasId id doc = false := by
  intro doc hdoc
  obtain ⟨n, -, hget⟩ := h.numbered _ (List.mem_map_of_mem hdoc)
  rw [Tracker.hasId, Json.getD, hget, Bool.eq_false_iff]
  exact fun hbeq => hid n (Json.str.inj ((Json.beq_str _ _).1 hbeq))

namespace Tracker

/-! ## Steps -/

/-- What can happen to a tracker: something is put into it, or it answers a request. -/
inductive Step : Tracker → Tracker → Prop
  | issue (t : Tracker) (key summary status : String) : Step t (t.addIssue key summary status)
  | field {t t' : Tracker} {key field : String} {value : Json} (h : t.setField? key field value = some t') : Step t t'
  | workflow (t : Tracker) (graph : List Transition) : Step t { t with workflow := graph }
  | linkType (t : Tracker) (type : LinkType) : Step t { t with linkTypes := t.linkTypes ++ [type] }
  | comment (t : Tracker) (key author body : String) : Step t (t.addComment key author body).1
  | remoteLink (t : Tracker) (key : String) (entry : Json) : Step t (t.addRemoteLink key entry)
  | denial (t : Tracker) : Step t { t with deniesRemoteLinks := true }
  | clearing (t : Tracker) : Step t { t with log := [] }
  | answer (t : Tracker) (r : Request) : Step t (t.respond r).1

/-- A tracker that was empty once. -/
def Reachable (t : Tracker) : Prop := ∃ user, Relation.ReflTransGen Step (empty user) t

/-- What a tracker knows of comments. -/
def threads (t : Tracker) : Table (List Json) × Nat := (t.comments, t.nextCommentId)

theorem threads_setField? {t t' : Tracker} {key field : String} {value : Json}
    (h : t.setField? key field value = some t') : t'.threads = t.threads := by
  unfold setField? at h
  split at h
  · obtain rfl := Option.some.inj h
    rfl
  · obtain ⟨issue, -, rfl⟩ := Option.map_eq_some_iff.1 h
    rfl

/-- The comments of every issue are numbered. -/
def CommentsNumbered (t : Tracker) : Prop := ∀ key, Numbered (t.commentsOf key) t.nextCommentId

namespace CommentsNumbered

variable {t t' : Tracker}

theorem of_threads_eq (h : t.CommentsNumbered) (heq : t'.threads = t.threads) : t'.CommentsNumbered := by
  obtain ⟨hcomments, hnext⟩ := Prod.mk.inj heq
  intro key
  rw [commentsOf, hcomments, hnext]
  exact h key

theorem put (h : t.CommentsNumbered) {key : String} {docs : List Json} {next : Nat} (hle : t.nextCommentId ≤ next)
    (hdocs : Numbered docs next) : { t.putComments key docs with nextCommentId := next }.CommentsNumbered := by
  intro other
  change Numbered ((t.putComments key docs).commentsOf other) next
  rw [commentsOf_putComments]
  split
  · exact hdocs
  · exact (h other).mono hle

/-- A new comment gets the next number, whatever it is restricted to. -/
theorem append (h : t.CommentsNumbered) (key author body : String) (request : Json) :
    { t.putComments key (t.commentsOf key ++ [restricted request (t.newComment author body)]) with
      nextCommentId := t.nextCommentId + 1 }.CommentsNumbered :=
  h.put (Nat.le_succ _) ((h key).append (t.get?_id_newComment author body request))

end CommentsNumbered

/-! ## Answers -/

/-- Whatever an answer does, the comments stay numbered. Only three of its effects concern them. -/
theorem CommentsNumbered.effect {t t' : Tracker} {r : Request} {answer : Answer} (h : t.CommentsNumbered)
    (heffect : Effect t r t' answer) : t'.CommentsNumbered := by
  cases heffect with
  | nothing => exact h
  | change => exact h
  | assign => exact h
  | move => exact h
  | comment key text => exact h.append key t.user text _
  | edit hcomment => exact h.put (Nat.le_refl _) ((h _).set hcomment (get?_id_changeComment _ _))
  | erase key i => exact h.put (Nat.le_refl _) ((h key).sublist (List.eraseIdx_sublist _ _))
  | upsert key => exact h.of_threads_eq (congrArg threads (t.butRemoteLinks_upsert key _) :)
  | delete key id => exact h.of_threads_eq (congrArg threads (t.butRemoteLinks_delete key id) :)
  | link => exact issueLinkRoute_keeps (P := CommentsNumbered) h fun _ _ _ _ _ _ _ ht _ _ => ht

theorem CommentsNumbered.respond {t : Tracker} (h : t.CommentsNumbered) (r : Request) :
    (t.respond r).1.CommentsNumbered :=
  have hnoted : (t.noted r).CommentsNumbered := h
  hnoted.effect (effect_respond t r)

/-! ## Runs -/

theorem commentsNumbered_empty (user : String) : (empty user).CommentsNumbered := fun _ => .nil _

theorem CommentsNumbered.step {t t' : Tracker} (h : t.CommentsNumbered) (hstep : Step t t') : t'.CommentsNumbered := by
  cases hstep with
  | issue key summary status => exact h
  | field hset => exact h.of_threads_eq (threads_setField? hset)
  | workflow graph => exact h
  | linkType type => exact h
  | comment key author body => exact h.append key author body .null
  | remoteLink key entry => exact h
  | denial => exact h
  | clearing => exact h
  | answer r => exact h.respond r

/-- What holds at first and is kept by every step holds of all trackers that can be reached. -/
theorem Reachable.preserves {I : Tracker → Prop} (hempty : ∀ user, I (empty user))
    (hstep : ∀ t t', t.Reachable → I t → Step t t' → I t') {t : Tracker} (h : t.Reachable) : I t := by
  obtain ⟨user, hsteps⟩ := h
  induction hsteps with
  | refl => exact hempty user
  | tail hsteps hlast ih => exact hstep _ _ ⟨user, hsteps⟩ ih hlast

/-- The comments of a tracker that can be reached are numbered. -/
theorem Reachable.commentsNumbered {t : Tracker} (h : t.Reachable) : t.CommentsNumbered :=
  h.preserves commentsNumbered_empty fun _ _ _ ht hstep => ht.step hstep

theorem Reachable.step {t t' : Tracker} (h : t.Reachable) (hstep : Step t t') : t'.Reachable := by
  obtain ⟨user, hsteps⟩ := h
  exact ⟨user, hsteps.tail hstep⟩

/-- Whatever a program asks for, it leads to a tracker that can be reached. -/
theorem Reachable.after {α : Type} {w : World} (h : w.tracker.Reachable) (p : Program α) :
    (w.after p).tracker.Reachable :=
  World.after_preserves (fun t r ht _ => ht.step (.answer t r)) p.sends_any h

theorem reachable_ofIssue (key status : String) (graph : List Transition) : (ofIssue key status graph).Reachable :=
  ⟨"duke", .tail (.tail .refl (.issue _ key "Title" status)) (.workflow _ graph)⟩

end Tracker

/-! ## Listing finds the issue -/

theorem toString_ne {c : Char} {text : String} (hc : c.isDigit = false) (hmem : c ∈ text.toList) (n : Nat) :
    toString n ≠ text := by
  rintro rfl
  exact notMem_toString hc n hmem

/-- Below the parts of an issue there are only its comments, which go by numbers. What is said about anything
else does not depend on the tracker. -/
theorem Tracker.route_below (r : Request) {segments : List String} {name : String} (hlength : 4 ≤ segments.length)
    (hlast : segments.getLast? = some name) (hname : ∀ n : Nat, toString n ≠ name) :
    ∃ what, ∀ t : Tracker, t.CommentsNumbered → t.route r segments = (t, .error (.notFound what)) := by
  by_cases hcomment : ∃ key, segments = ["issue", key, "comment", name]
  · obtain ⟨key, rfl⟩ := hcomment
    refine ⟨"comment " ++ name, fun t ht => ?_⟩
    have hnone : (t.commentsOf key).findIdx? (hasId name) = none :=
      List.findIdx?_eq_none_iff.2 ((ht key).hasId_eq_false hname)
    show t.commentRoute key name r = _
    rw [commentRoute, hnone]
  · refine ⟨"route " ++ r.line, fun t _ => ?_⟩
    unfold Tracker.route
    split
    · simp at hlength
    · simp at hlength
    · simp at hlength
    · rename_i key id
      obtain rfl : id = name := by simpa using hlast
      exact absurd ⟨key, rfl⟩ hcomment
    · simp at hlength
    · simp at hlength
    · simp at hlength
    · simp at hlength
    · rfl

namespace Snapshot

variable {s : Snapshot} {w : World} {r : Request}

/-- A part of an issue that is not there is not found, and every tracker says so in the same words. -/
theorem respond_missing (name : String) (hpath : r.path.toList = s.path.toList ++ '/' :: name.toList)
    (hslash : '/' ∉ name.toList) (hname : ∀ n : Nat, toString n ≠ name)
    (hunknown : '/' ∉ s.id.toList → ∀ t : Tracker, Table.contains s.id t.issues = false →
      t.respond r = (t.noted r, Tracker.noIssue s.id)) :
    ∃ what, ∀ t : Tracker, t.CommentsNumbered → ¬ s.On t → t.respond r = (t.noted r, .error (.notFound what)) := by
  by_cases hmem : '/' ∈ s.id.toList
  · -- With a slash in the key the path has at least four segments.
    let pieces := Text.splitOn '/' s.id.toList
    have hsplit : Text.split '/' r.path = "issue" :: (pieces.map String.ofList ++ [name]) := by
      have hchars : r.path.toList = "issue".toList ++ '/' :: (s.id.toList ++ '/' :: name.toList) := by
        rw [hpath, path, String.toList_append]
        simp
      rw [Text.split, hchars, Text.splitOn_append (by decide), Text.splitOn_append_sep, Text.splitOn_of_notMem hslash]
      simp [pieces]
    have hlength : 4 ≤ ("issue" :: (pieces.map String.ofList ++ [name])).length := by
      have hcount := List.count_pos_iff.2 hmem
      have hpieces : pieces.length = s.id.toList.count '/' + 1 := Text.length_splitOn '/' _
      simp [hpieces]
      omega
    have hlast : ("issue" :: (pieces.map String.ofList ++ [name])).getLast? = some name := by
      rw [← List.cons_append, List.getLast?_concat]
    obtain ⟨what, hroute⟩ := Tracker.route_below r hlength hlast hname
    exact ⟨what, fun t ht _ => (Tracker.respond_eq t r hsplit).trans (hroute (t.noted r) ht)⟩
  · refine ⟨"issue " ++ s.id, fun t _ hoff => hunknown hmem t ?_⟩
    rw [Bool.eq_false_iff]
    exact fun hknown => hoff ⟨hmem, hknown⟩

theorem remoteLinks_missing (hr : r.path = s.path ++ "/remotelink") :
    ∃ what, ∀ t : Tracker, t.CommentsNumbered → ¬ s.On t → t.respond r = (t.noted r, .error (.notFound what)) := by
  refine respond_missing "remotelink" (by simp [hr, String.toList_append]) (by decide)
    (toString_ne (c := 'r') (by decide) (by decide)) fun hslash t hknown => ?_
  rw [s.respond_remoteLinks hslash t hr, Tracker.remoteLinksRoute, if_pos (by simpa using hknown)]

theorem comments_missing (hr : r.path = s.path ++ "/comment") :
    ∃ what, ∀ t : Tracker, t.CommentsNumbered → ¬ s.On t → t.respond r = (t.noted r, .error (.notFound what)) := by
  refine respond_missing "comment" (by simp [hr, String.toList_append]) (by decide)
    (toString_ne (c := 'c') (by decide) (by decide)) fun hslash t hknown => ?_
  rw [s.respond_comments hslash t hr, Tracker.commentsRoute, if_pos (by simpa using hknown)]

/-- Only the remote links of an issue that is there can be listed. -/
theorem on_of_list (h : w.tracker.CommentsNumbered) {links : List WebLink}
    (hlist : w.result (RemoteLinks.mk s.path).list = .ok links) : s.On w.tracker := by
  refine Classical.byContradiction fun hoff => ?_
  let r : Request := (Request.get (RemoteLinks.mk s.path).path).onStatus 401 (.arr [])
  obtain ⟨what, hmissing⟩ := remoteLinks_missing (s := s) (r := r) rfl
  -- Not found is no answer that listing takes for an empty list.
  rw [RemoteLinks.list, World.result_bind_eq_ok] at hlist
  obtain ⟨document, hdocument, -⟩ := hlist
  rw [World.result_execute, hmissing _ h hoff] at hdocument
  cases hdocument

/-- Only the comments of an issue that is there can be listed. -/
theorem on_of_comments (h : w.tracker.CommentsNumbered) {p : Project} {comments : List Comment}
    (hlist : w.result (s.comments p) = .ok comments) : s.On w.tracker := by
  refine Classical.byContradiction fun hoff => ?_
  let r : Request := (Request.get (s.commentStore p).path).param "maxResults" CommentStore.pageSize
  obtain ⟨what, hmissing⟩ := comments_missing (s := s) (r := r) rfl
  rw [Snapshot.comments, CommentStore.list, World.result_bind_eq_ok] at hlist
  obtain ⟨page, hpage, -⟩ := hlist
  rw [World.result_execute, hmissing _ h hoff] at hpage
  cases hpage

end Snapshot

end IssueTracker
