import IssueTracker.Proofs.Link.Ends
import IssueTracker.Proofs.Link.Native
import IssueTracker.Proofs.Link.Posting
/-!
# What a failure leaves behind

Adding a link that fails leaves a tracker as it was, with one exception: where a tracker does not know the
outward end of a link between issues, it notices only after it has stored the entry with the inward end.
-/

namespace IssueTracker

open Tracker (issueLinkEntry withIssueLink?)

/-! ## Web links -/

/-- Whatever is to be created, an error leaves nothing behind unless issues were to be linked. -/
theorem Tracker.unlogged_of_error {t : Tracker} {r : Request} {e : TrackerError} (hmethod : r.method = .post)
    (hpath : Text.split '/' r.path ≠ ["issueLink"]) {members : List (String × Json)} (hbody : bodyOf r = .obj members)
    (he : (t.respond r).2 = .error e) : (t.respond r).1.unlogged = t.unlogged := by
  have heffect := effect_respond t r
  generalize (t.respond r).1 = t' at heffect ⊢
  generalize (t.respond r).2 = answer at heffect he
  cases heffect with
  | nothing => rfl
  | change hput => simp [hmethod] at hput
  | assign => cases he
  | move => cases he
  | comment => cases he
  | edit => cases he
  | erase => cases he
  | upsert key =>
    -- There is a place for a number in every object.
    unfold upsertRemoteLink at he
    dsimp only at he
    rw [hbody] at he
    split at he <;> cases he
  | delete _ _ hdelete => simp [hmethod] at hdelete
  | link hlink => exact absurd hlink hpath

/-- Adding a web link that fails changes nothing. -/
theorem Snapshot.unlogged_of_web_error {w : World} (hw : w.tracker.Reachable) (p : Project) (s : Snapshot)
    (l : WebLink) {e : TrackerError} (he : w.result (s.addLink p (.web l)) = .error e) :
    (w.after (s.addLink p (.web l))).tracker.unlogged = w.tracker.unlogged := by
  cases hp : p.isRestricted with
  | true =>
    rw [s.addLink_restricted hp] at he ⊢
    let store : CommentStore := ⟨s.path, p.visibilityRole⟩
    cases hlist : w.result store.listLinks with
    | error e' =>
      rw [CommentStore.addLink, World.after_bind_error _ hlist]
      exact World.unlogged_after store.reads_listLinks w
    | ok posted =>
      -- Where comments can be listed, writing one never fails.
      obtain ⟨comments, hcomments, -⟩ := w.result_bind_eq_ok.1 hlist
      have hon : s.On w.tracker := on_of_comments (p := p) hw.commentsNumbered hcomments
      cases hany : posted.any (·.sameTarget l) with
      | true => cases he.symm.trans (CommentStore.addLink_found hlist hany).1
      | false => cases he.symm.trans (CommentStore.addLink_new hon p.visibilityRole hlist hany).1
  | false =>
    have hrole : p.visibilityRole = none := by simpa [Project.isRestricted] using hp
    rw [s.addLink_unrestricted hrole] at he ⊢
    let r : Request := .post (RemoteLinks.mk s.path).path (WebLink.EntryForm.render l)
    have hpath : Text.split '/' r.path ≠ ["issueLink"] := by
      have hchars : r.path.toList = "issue".toList ++ '/' :: (s.id.toList ++ "/remotelink".toList) := by
        simp [r, Request.post, RemoteLinks.path, path, String.toList_append]
      rw [Text.split, hchars, Text.splitOn_append (by decide), List.map_cons]
      intro heq
      exact absurd (List.cons.inj heq).1 (by decide)
    have hanswer : (w.tracker.respond r).2 = .error e := by
      rw [RemoteLinks.add, World.result_perform, Request.settle_post] at he
      cases hanswer : (w.tracker.respond r).2 with
      | ok document =>
        rw [hanswer] at he
        cases he
      | error e' =>
        rw [hanswer] at he
        exact congrArg Except.error (Except.error.inj he)
    exact Tracker.unlogged_of_error rfl hpath rfl hanswer

/-! ## Links between issues -/

/-- Of the two ends of a link that has a type, only the inward one is there. -/
structure World.HalfThere (w : World) (s target : Snapshot) (relationship : String) (type : LinkType)
    (inward outward : String) : Prop where
  selected : ∃ t d, LinkType.select? w.vocabulary relationship = some (t, d) ∧
    s.ends target.id d = (inward, outward) ∧ w.tracker.linkTypes.find? (·.name = t.name) = some type
  inward : Table.contains inward w.tracker.issues = true
  outward : Table.contains outward w.tracker.issues = false

/-- A tracker has stored an entry for a link with its inward end, and done nothing else. -/
def Tracker.Halved (t t' : Tracker) (type : LinkType) (inward outward : String) : Prop :=
  ∃ issue changed, Table.get? inward t.issues = some issue ∧
    withIssueLink? (issueLinkEntry type "outwardIssue" outward) issue = some changed ∧
    t'.unlogged = (t.putIssue inward changed).unlogged

/-- An entry makes a difference. -/
theorem Tracker.Halved.ne {t t' : Tracker} {type : LinkType} {inward outward : String}
    (h : t.Halved t' type inward outward) : t'.unlogged ≠ t.unlogged := by
  obtain ⟨issue, changed, hissue, hset, heq⟩ := h
  intro hsame
  have hissues : (t.putIssue inward changed).issues = t.issues :=
    (congrArg issues (heq.symm.trans hsame) :)
  have hchanged : changed = issue := by
    have hget := Table.get?_insert_self inward changed t.issues
    rw [show Table.insert inward changed t.issues = t.issues from hissues, hissue] at hget
    exact (Option.some.inj hget).symm
  have hitems := congrArg List.length (itemsAt_withIssueLink? hset)
  rw [hchanged, List.length_append, List.length_singleton] at hitems
  omega

namespace World.HalfThere

variable {w : World} {s target : Snapshot} {relationship : String} {type type' : LinkType}
  {inward inward' outward outward' : String}

theorem of_select? (h : w.HalfThere s target relationship type inward outward) {t : LinkType} {d : Direction}
    (hselect : LinkType.select? w.vocabulary relationship = some (t, d)) :
    s.ends target.id d = (inward, outward) ∧ w.tracker.linkTypes.find? (·.name = t.name) = some type := by
  obtain ⟨t', d', hselect', hends, htype⟩ := h.selected
  obtain ⟨rfl, rfl⟩ := Prod.mk.inj (Option.some.inj (hselect'.symm.trans hselect))
  exact ⟨hends, htype⟩

theorem unique (h : w.HalfThere s target relationship type inward outward)
    (h' : w.HalfThere s target relationship type' inward' outward') :
    type' = type ∧ inward' = inward ∧ outward' = outward := by
  obtain ⟨t, d, hselect, hends, htype⟩ := h.selected
  obtain ⟨hends', htype'⟩ := h'.of_select? hselect
  obtain ⟨rfl, rfl⟩ := Prod.mk.inj (hends'.symm.trans hends)
  exact ⟨Option.some.inj (htype'.symm.trans htype), rfl, rfl⟩

end World.HalfThere

/-- A link between issues that cannot be added is not there at all, or at its inward end only. -/
theorem Snapshot.addIssueLink_error {w : World} (hw : w.tracker.Orderly) (s target : Snapshot)
    {relationship : String} {e : TrackerError} (he : w.result (s.addIssueLink target relationship) = .error e) :
    let t' := (w.after (s.addIssueLink target relationship)).tracker
    (t'.unlogged = w.tracker.unlogged ∧
      ∀ type inward outward, ¬ w.HalfThere s target relationship type inward outward) ∨
    ∃ type inward outward, w.HalfThere s target relationship type inward outward ∧
      e = .notFound ("issue " ++ outward) ∧ w.tracker.Halved t' type inward outward := by
  intro t'
  cases hselect : LinkType.select? w.vocabulary relationship with
  | none =>
    obtain ⟨-, hunlogged, -⟩ := World.addIssueLink_unselected s target hselect
    refine .inl ⟨hunlogged, fun type inward outward hhalf => ?_⟩
    obtain ⟨t, d, hselect', -, -⟩ := hhalf.selected
    rw [hselect] at hselect'
    cases hselect'
  | some selected =>
    obtain ⟨t, d⟩ := selected
    obtain ⟨t₀, answer, hunlogged, hlinking, hresult⟩ := World.addIssueLink_selected s target hw hselect
    have hissues : t₀.issues = w.tracker.issues := (congrArg Tracker.issues hunlogged :)
    have htypes : t₀.linkTypes = w.tracker.linkTypes := (congrArg Tracker.linkTypes hunlogged :)
    rw [he] at hresult
    generalize hinward : (s.ends target.id d).1 = inward at hlinking
    generalize houtward : (s.ends target.id d).2 = outward at hlinking
    change Tracker.Linking t₀ t.name inward outward t' answer at hlinking
    generalize t' = t'' at hlinking ⊢
    cases hlinking with
    | untyped htype =>
      refine .inl ⟨hunlogged, fun type inward outward hhalf => ?_⟩
      rw [htypes, (hhalf.of_select? hselect).2] at htype
      cases htype
    | absent htype habsent =>
      refine .inl ⟨hunlogged, fun type inward' outward' hhalf => ?_⟩
      have hsame : inward = inward' := hinward.symm.trans (congrArg Prod.fst (hhalf.of_select? hselect).1)
      have hknown := hhalf.inward
      rw [Table.contains, ← hsame, ← hissues, habsent] at hknown
      cases hknown
    | @half type issue changed htype hissue hset habsent =>
      rw [Tracker.putIssue, Table.get?_insert] at habsent
      split at habsent
      · cases habsent
      rw [hissues] at hissue habsent
      refine .inr ⟨type, inward, outward, ⟨⟨t, d, hselect, ?_, htypes ▸ htype⟩, ?_, ?_⟩, ?_, issue, changed, hissue,
        hset, ?_⟩
      · rw [← hinward, ← houtward]
      · rw [Table.contains, hissue]
        rfl
      · rw [Table.contains, habsent]
        rfl
      · exact Except.error.inj hresult
      · exact congrArg (Tracker.putIssue · inward changed) hunlogged
    | both => cases hresult

/-! ## All links -/

/-- Adding a link that fails leaves a tracker as it was, apart from its log, unless it is a link between
issues of which only the inward end is there. Then the error is about the other end, and an entry for the
link has been stored with the inward one. -/
theorem addLink_failure_leaves_nothing_or_half {w : World} (hw : w.tracker.Reachable) (p : Project) (s : Snapshot)
    (l : Link) {e : TrackerError} (he : w.result (s.addLink p l) = .error e) :
    let t' := (w.after (s.addLink p l)).tracker
    (t'.unlogged = w.tracker.unlogged ↔ ∀ target relationship type inward outward,
      l = .issue target relationship → ¬ w.HalfThere s target relationship type inward outward) ∧
    ∀ target relationship type inward outward, l = .issue target relationship →
      w.HalfThere s target relationship type inward outward →
      e = .notFound ("issue " ++ outward) ∧ w.tracker.Halved t' type inward outward := by
  intro t'
  cases l with
  | web l =>
    refine ⟨⟨fun _ => ?_, fun _ => s.unlogged_of_web_error hw p l he⟩, ?_⟩
    · rintro target relationship type inward outward ⟨⟩
    · rintro target relationship type inward outward ⟨⟩
  | issue target relationship =>
    rcases s.addIssueLink_error hw.orderly target he with
      ⟨hunlogged, hnot⟩ | ⟨type, inward, outward, hhalf, rfl, hhalved⟩
    · refine ⟨⟨fun _ => ?_, fun _ => hunlogged⟩, ?_⟩
      · rintro _ _ type inward outward ⟨⟩
        exact hnot type inward outward
      · rintro _ _ type inward outward ⟨⟩ hhalf
        exact absurd hhalf (hnot type inward outward)
    · refine ⟨⟨fun hsame => absurd hsame hhalved.ne, fun hnot => absurd hhalf (hnot _ _ _ _ _ rfl)⟩, ?_⟩
      rintro _ _ type' inward' outward' ⟨⟩ hhalf'
      obtain ⟨rfl, rfl, rfl⟩ := hhalf.unique hhalf'
      exact ⟨rfl, hhalved⟩

/-- A tracker with one issue, which may block others. -/
def Tracker.blocking : Tracker :=
  let t := ofIssue "X-1" "Open" []
  { t with linkTypes := t.linkTypes ++ [⟨"Blocks", "is blocked by", "blocks"⟩] }

theorem Tracker.reachable_blocking : Tracker.blocking.Reachable :=
  (reachable_ofIssue "X-1" "Open" []).step (.linkType _ _)

/-- How many links an issue lists. -/
def Tracker.linkCount (t : Tracker) (key : String) : Nat :=
  ((Table.get? key t.issues).map fun issue => (issue.itemsAt (.ofKeys ["fields", "issuelinks"])).length).getD 0

/-- An issue that blocks one that is not there lists a link although adding it has failed. -/
theorem addLink_failure_leaves_link :
    let w : World := ⟨.blocking, none⟩
    let program := (Snapshot.ofIssue "X-1" "Open").addLink .unrestricted (.issue (.ofIssue "X-2" "Open") "blocks")
    w.tracker.Reachable ∧ w.result program = .error (.notFound "issue X-2") ∧ w.tracker.linkCount "X-1" = 0 ∧
      (w.after program).tracker.linkCount "X-1" = 1 ∧ (w.after program).tracker.issues ≠ w.tracker.issues := by
  intro w program
  have hfails : w.result program = .error (.notFound "issue X-2") := by decide +kernel
  have hbefore : w.tracker.linkCount "X-1" = 0 := by decide +kernel
  have hafter : (w.after program).tracker.linkCount "X-1" = 1 := by decide +kernel
  refine ⟨Tracker.reachable_blocking, hfails, hbefore, hafter, fun heq => ?_⟩
  unfold Tracker.linkCount at hbefore hafter
  rw [heq, hbefore] at hafter
  cases hafter

/-- Being blocked by an issue that is not there leaves nothing behind, blocking it leaves half a link. -/
theorem addLink_failure_blocking :
    let w : World := ⟨.blocking, none⟩
    let s := Snapshot.ofIssue "X-1" "Open"
    let blocked := s.addLink .unrestricted (.issue (.ofIssue "X-2" "Open") "is blocked by")
    let blocks := s.addLink .unrestricted (.issue (.ofIssue "X-2" "Open") "blocks")
    w.tracker.Reachable ∧ w.result blocked = .error (.notFound "issue X-2") ∧
      (w.after blocked).tracker.unlogged = w.tracker.unlogged ∧
      w.result blocks = .error (.notFound "issue X-2") ∧
      w.tracker.Halved (w.after blocks).tracker ⟨"Blocks", "is blocked by", "blocks"⟩ "X-1" "X-2" := by
  intro w s blocked blocks
  have hw : w.tracker.Reachable := Tracker.reachable_blocking
  have hblocked : w.result blocked = .error (.notFound "issue X-2") := by decide +kernel
  have hblocks : w.result blocks = .error (.notFound "issue X-2") := by decide +kernel
  have hnothing : (w.after blocked).tracker.unlogged = w.tracker.unlogged := by
    refine (addLink_failure_leaves_nothing_or_half hw _ s _ hblocked).1.2 ?_
    rintro _ _ type inward outward ⟨⟩ hhalf
    have hselect : LinkType.select? w.vocabulary "is blocked by" =
        some (⟨"Blocks", "is blocked by", "blocks"⟩, .inward) := by decide
    obtain ⟨rfl, rfl⟩ := Prod.mk.inj (hhalf.of_select? hselect).1
    exact absurd hhalf.inward (by decide +kernel)
  have hhalf : w.HalfThere s (.ofIssue "X-2" "Open") "blocks" ⟨"Blocks", "is blocked by", "blocks"⟩ "X-1" "X-2" :=
    ⟨⟨⟨"Blocks", "is blocked by", "blocks"⟩, .outward, by decide, rfl, by decide⟩, by decide +kernel,
      by decide +kernel⟩
  exact ⟨hw, hblocked, hnothing, hblocks,
    ((addLink_failure_leaves_nothing_or_half hw _ s _ hblocks).2 _ _ _ _ _ rfl hhalf).2⟩

end IssueTracker
