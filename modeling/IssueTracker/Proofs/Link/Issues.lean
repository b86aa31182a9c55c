import Mathlib.Data.List.Forall2
import IssueTracker.Proofs.Comment.Page
import IssueTracker.Proofs.Link.Remote
import IssueTracker.Proofs.Tracker.Fetch
/-!
# Links between issues

What listing the links of an issue comes to on a tracker in order: its web links, and for every stored
entry the issue that the entry leads to. The links that are listed go on being listed when issues get more
entries; only the documents of the issues that they lead to change.
-/

namespace IssueTracker

open Json (Pointer)
open Tracker (withIssueLink?)

/-- Where a document lists its links. -/
def Snapshot.entries (s : Snapshot) : List Json := s.document.itemsAt (.ofKeys ["fields", "issuelinks"])

/-- What a link says, with the key alone of an issue that it leads to. -/
def Link.view : Link → WebLink ⊕ (String × String)
  | .web l => .inl l
  | .issue target relationship => .inr (target.id, relationship)

/-! ## What is listed -/

namespace Tracker

variable {t t' : Tracker} {entry : Json} {id : String}

/-- An entry leads to an issue that is there. -/
def Leads (t : Tracker) (entry : Json) (l : Link) : Prop :=
  ∃ key relationship target, Snapshot.readIssueLink entry = .ok (key, relationship) ∧ t.Finds key target ∧
    l = .issue target relationship

/-- The links in comments. -/
def linksIn (comments : List Comment) : List WebLink :=
  comments.filterMap fun comment => WebLink.CommentForm.parse? comment.body

/-- The web links that an issue has: those of its remote links, as far as they may be seen, and those in
its comments. All of them can be read. -/
def ShowsWeb (t : Tracker) (id : String) (webs : List WebLink) : Prop :=
  ∃ (remote : List WebLink) (comments : List Comment),
    ((if t.deniesRemoteLinks then [] else t.remoteLinksOf id).filter WebLink.EntryForm.isOwn).map
      (fun entry => (WebLink.EntryForm.read entry).map Prod.fst) = remote.map .ok ∧
    (t.commentsOf id).map Comment.ofJson = comments.map .ok ∧ webs = remote ++ linksIn comments

/-- The links of an issue that is there. -/
def HasLinks (t : Tracker) (id : String) (ls : List Link) : Prop :=
  ∃ (s : Snapshot) (webs : List WebLink) (issues : List Link), t.Finds id s ∧ t.ShowsWeb id webs ∧
    List.Forall₂ t.Leads s.entries issues ∧ ls = webs.map .web ++ issues

theorem HasLinks.finds {ls : List Link} (h : t.HasLinks id ls) : ∃ s, t.Finds id s := by
  obtain ⟨s, -, -, hs, -⟩ := h
  exact ⟨s, hs⟩

theorem HasLinks.of_unlogged {ls : List Link} (h : t.HasLinks id ls) (heq : t'.unlogged = t.unlogged) :
    t'.HasLinks id ls := by
  obtain ⟨s, webs, issues, hfinds, ⟨remote, comments, hremote, hcomments, hwebs⟩, hleads, hls⟩ := h
  refine ⟨s, webs, issues, hfinds.of_unlogged heq, ⟨remote, comments, ?_, ?_, hwebs⟩, hleads.imp ?_, hls⟩
  · rw [remoteLinksOf_of_unlogged heq, show t'.deniesRemoteLinks = t.deniesRemoteLinks from
      (congrArg deniesRemoteLinks heq :)]
    exact hremote
  · rw [commentsOf_of_unlogged heq]
    exact hcomments
  · rintro entry l ⟨key, relationship, target, hread, htarget, rfl⟩
    exact ⟨key, relationship, target, hread, htarget.of_unlogged heq, rfl⟩

end Tracker

namespace World

variable {w : World} {t : Tracker} {s : Snapshot}

/-- Following an entry gives the link to the issue that it leads to. -/
theorem result_fetchIssueLink (ht : t.Orderly) (hw : w.tracker.unlogged = t.unlogged) {entry : Json} {l : Link} :
    w.result (Snapshot.fetchIssueLink entry) = .ok l ↔ t.Leads entry l := by
  have horderly : w.tracker.Orderly := ht.of_unlogged hw
  unfold Snapshot.fetchIssueLink Tracker.Leads
  rw [result_bind_eq_ok]
  constructor
  · rintro ⟨⟨key, relationship⟩, hread, h⟩
    rw [result_bind_eq_ok] at h
    obtain ⟨_ | target, htarget, h⟩ := h
    · cases h
    · cases h
      exact ⟨key, relationship, target, hread, ((result_issue horderly).1 htarget).of_unlogged hw.symm, rfl⟩
  · rintro ⟨key, relationship, target, hread, htarget, rfl⟩
    refine ⟨(key, relationship), hread, ?_⟩
    have hfound : w.result (Project.issue key) = .ok (some target) := result_issue_of_finds (htarget.of_unlogged hw)
    exact (result_bind_ok _ hfound _).trans rfl

/-- All entries are followed, and one that leads nowhere is an error. -/
theorem result_issueLinks (ht : t.Orderly) (hw : w.tracker.unlogged = t.unlogged) {entries : List Json}
    {ls : List Link} : w.result (Snapshot.issueLinks entries) = .ok ls ↔ List.Forall₂ t.Leads entries ls := by
  induction entries generalizing w ls with
  | nil =>
    rw [List.forall₂_nil_left_iff]
    exact ⟨fun h => (Except.ok.inj h).symm, fun h => h ▸ rfl⟩
  | cons entry rest ih =>
    have hafter : (w.after (Snapshot.fetchIssueLink entry)).tracker.unlogged = t.unlogged :=
      (unlogged_after (Snapshot.reads_fetchIssueLink entry) w).trans hw
    rw [Snapshot.issueLinks, result_bind_eq_ok, List.forall₂_cons_left_iff]
    simp only [result_bind_eq_ok, result_fetchIssueLink ht hw, ih hafter]
    constructor
    · rintro ⟨l, hl, ls', hls', h⟩
      cases h
      exact ⟨l, ls', hl, hls', rfl⟩
    · rintro ⟨l, ls', hl, hls', rfl⟩
      exact ⟨l, hl, ls', hls', rfl⟩

/-- Listing gives the web links of an issue, then the links to issues. -/
theorem result_links (ht : t.Orderly) (hw : w.tracker.unlogged = t.unlogged) (hs : s.On t) (p : Project)
    {ls : List Link} : w.result (s.links p) = .ok ls ↔ ∃ (webs : List WebLink) (issues : List Link),
      t.ShowsWeb s.id webs ∧ List.Forall₂ t.Leads s.entries issues ∧ ls = webs.map .web ++ issues := by
  let listed := w.after (RemoteLinks.mk s.path).list
  have hlisted : listed.tracker.unlogged = t.unlogged :=
    (unlogged_after (RemoteLinks.mk s.path).reads_list w).trans hw
  have hposted : (listed.after (s.commentStore p).listLinks).tracker.unlogged = t.unlogged :=
    (unlogged_after (s.commentStore p).reads_listLinks listed).trans hlisted
  have hdenies : w.tracker.deniesRemoteLinks = t.deniesRemoteLinks := (congrArg Tracker.deniesRemoteLinks hw :)
  -- Each part depends on the tracker without its log.
  have hremote {remote : List WebLink} : w.result (RemoteLinks.mk s.path).list = .ok remote ↔
      ((if t.deniesRemoteLinks then [] else t.remoteLinksOf s.id).filter WebLink.EntryForm.isOwn).map
        (fun entry => (WebLink.EntryForm.read entry).map Prod.fst) = remote.map .ok := by
    rw [RemoteLinks.list_eq_ok (hs.of_unlogged hw), hdenies, Tracker.remoteLinksOf_of_unlogged hw]
  have hcomments {inComments : List WebLink} : listed.result (s.commentStore p).listLinks = .ok inComments ↔
      ∃ comments : List Comment, (t.commentsOf s.id).map Comment.ofJson = comments.map .ok ∧
        Tracker.linksIn comments = inComments := by
    have hlist {comments : List Comment} : listed.result (s.commentStore p).list = .ok comments ↔
        (t.commentsOf s.id).map Comment.ofJson = comments.map .ok := by
      rw [← Tracker.commentsOf_of_unlogged hlisted]
      exact CommentStore.list_eq_ok (hs.of_unlogged hlisted) p.visibilityRole
    rw [CommentStore.listLinks, result_bind_eq_ok]
    simp only [hlist, World.result_readLinks, Except.ok.injEq]
    rfl
  rw [s.links_eq_ok w p]
  constructor
  · rintro ⟨remote, inComments, issues, hlist, ⟨hin, hissues⟩, rfl⟩
    obtain ⟨comments, hread, rfl⟩ := hcomments.1 hin
    refine ⟨_, issues, ⟨remote, comments, hremote.1 hlist, hread, rfl⟩, (result_issueLinks ht hposted).1 hissues, ?_⟩
    rw [List.map_append]
  · rintro ⟨webs, issues, ⟨remote, comments, hlist, hread, rfl⟩, hissues, rfl⟩
    refine ⟨remote, _, issues, hremote.2 hlist, ⟨hcomments.2 ⟨comments, hread, rfl⟩,
      (result_issueLinks ht hposted).2 hissues⟩, ?_⟩
    rw [List.map_append]

/-- The links of an issue that is fetched before. -/
def ShowsLinks (w : World) (p : Project) (id : String) (ls : List Link) : Prop :=
  ∃ s, w.result (Project.issue id) = .ok (some s) ∧ (w.after (Project.issue id)).result (s.links p) = .ok ls

/-- What is listed is what the tracker has. -/
theorem showsLinks_iff (hw : w.tracker.Orderly) {p : Project} {id : String} {ls : List Link} :
    w.ShowsLinks p id ls ↔ w.tracker.HasLinks id ls := by
  have hunlogged := unlogged_after (Project.reads_issue id) w
  unfold ShowsLinks Tracker.HasLinks
  constructor
  · rintro ⟨s, hs, hls⟩
    have hfinds := (result_issue hw).1 hs
    obtain ⟨webs, issues, hwebs, hleads, rfl⟩ := (result_links hw hunlogged (hfinds.on hw) p).1 hls
    exact ⟨s, webs, issues, hfinds, hfinds.id_eq hw ▸ hwebs, hleads, rfl⟩
  · rintro ⟨s, webs, issues, hfinds, hwebs, hleads, rfl⟩
    refine ⟨s, result_issue_of_finds hfinds, (result_links hw hunlogged (hfinds.on hw) p).2 ?_⟩
    exact ⟨webs, issues, (hfinds.id_eq hw).symm ▸ hwebs, hleads, rfl⟩

end World

/-! ## More entries -/

namespace Tracker

variable {t t' t'' : Tracker} {added added' : String → List Json}

/-- A tracker whose issues list some entries more, and which is the same apart from that. -/
structure Extends (t t' : Tracker) (added : String → List Json) : Prop where
  orderly : t.Orderly
  orderly' : t'.Orderly
  finds : ∀ id s, t.Finds id s → ∃ s', t'.Finds id s' ∧ s'.entries = s.entries ++ added id
  remoteLinks_eq : t'.remoteLinks = t.remoteLinks
  denies_eq : t'.deniesRemoteLinks = t.deniesRemoteLinks
  comments_eq : t'.comments = t.comments

namespace Extends

/-- An entry is stored with an issue. -/
theorem put (ht : t.Orderly) {key : String} {issue changed entry : Json} (hissue : Table.get? key t.issues = some issue)
    (hset : withIssueLink? entry issue = some changed) :
    t.Extends (t.putIssue key changed) fun id => if id = key then [entry] else [] := by
  refine ⟨ht, ht.putIssue ((ht.filed _ _ hissue).withIssueLink? hset), fun id s hs => ?_, rfl, rfl, rfl⟩
  by_cases hid : id = key
  · subst hid
    obtain rfl : s.document = issue := Option.some.inj (hs.stored.symm.trans hissue)
    have hfields : ∀ field ∈ ["summary", "status"], fieldOf? changed field = fieldOf? s.document field := by
      intro field hfield
      have hother : field ≠ "issuelinks" := by
        rintro rfl
        exact absurd hfield (by decide)
      rw [fieldOf?_withField? hset, if_neg hother]
    obtain ⟨s', hs'⟩ := Snapshot.ofJson_congr hs.describes (get?_withField? hset (by decide)) hfields
    obtain rfl := Snapshot.document_of_ofJson hs'
    rw [if_pos rfl]
    exact ⟨s', ⟨hs.slashFree, Table.get?_insert_self _ _ _, hs'⟩, itemsAt_withIssueLink? hset⟩
  · rw [if_neg hid]
    exact ⟨s, ⟨hs.slashFree, (Table.get?_insert_ne hid _ _).trans hs.stored, hs.describes⟩, by simp⟩

theorem trans (h : t.Extends t' added) (h' : t'.Extends t'' added') :
    t.Extends t'' fun id => added id ++ added' id := by
  refine ⟨h.orderly, h'.orderly', fun id s hs => ?_, h'.remoteLinks_eq.trans h.remoteLinks_eq,
    h'.denies_eq.trans h.denies_eq, h'.comments_eq.trans h.comments_eq⟩
  obtain ⟨s', hs', hentries⟩ := h.finds id s hs
  obtain ⟨s'', hs'', hentries'⟩ := h'.finds id s' hs'
  exact ⟨s'', hs'', by rw [hentries', hentries, List.append_assoc]⟩

variable (h : t.Extends t' added)
include h

/-- An entry goes on leading to the same issue. -/
theorem leads {entry : Json} {l : Link} (hl : t.Leads entry l) : ∃ l', t'.Leads entry l' ∧ l'.view = l.view := by
  obtain ⟨key, relationship, target, hread, htarget, rfl⟩ := hl
  obtain ⟨target', htarget', -⟩ := h.finds key target htarget
  refine ⟨.issue target' relationship, ⟨key, relationship, target', hread, htarget', rfl⟩, ?_⟩
  rw [Link.view, Link.view, htarget'.id_eq h.orderly', htarget.id_eq h.orderly]

theorem forall₂_leads {entries : List Json} {ls : List Link} (hls : List.Forall₂ t.Leads entries ls) :
    ∃ ls', List.Forall₂ t'.Leads entries ls' ∧ ls'.map Link.view = ls.map Link.view := by
  induction hls with
  | nil => exact ⟨[], .nil, rfl⟩
  | cons hl _ ih =>
    obtain ⟨l', hl', hview⟩ := h.leads hl
    obtain ⟨ls', hls', hviews⟩ := ih
    exact ⟨l' :: ls', .cons hl' hls', by rw [List.map_cons, List.map_cons, hview, hviews]⟩

/-- The links of an issue are the former ones, and those of the new entries after them. -/
theorem hasLinks {id : String} {ls new : List Link} (hls : t.HasLinks id ls)
    (hnew : List.Forall₂ t'.Leads (added id) new) :
    ∃ ls', t'.HasLinks id ls' ∧ ls'.map Link.view = ls.map Link.view ++ new.map Link.view := by
  obtain ⟨s, webs, issues, hs, ⟨remote, comments, hremote, hcomments, hwebs⟩, hleads, rfl⟩ := hls
  obtain ⟨s', hs', hentries⟩ := h.finds id s hs
  obtain ⟨issues', hleads', hviews⟩ := h.forall₂_leads hleads
  refine ⟨webs.map .web ++ (issues' ++ new), ⟨s', webs, _, hs', ⟨remote, comments, ?_, ?_, hwebs⟩, ?_, rfl⟩, ?_⟩
  · unfold remoteLinksOf
    rw [h.denies_eq, h.remoteLinks_eq]
    exact hremote
  · unfold commentsOf
    rw [h.comments_eq]
    exact hcomments
  · rw [hentries]
    exact List.rel_append hleads' hnew
  · simp only [List.map_append, hviews, List.append_assoc]

/-- An entry that leads to an issue is one link more. -/
theorem hasLinks_entry {id key relationship : String} {entry : Json} {ls : List Link} {target : Snapshot}
    (hls : t.HasLinks id ls) (hadded : added id = [entry])
    (hread : Snapshot.readIssueLink entry = .ok (key, relationship)) (htarget : t.Finds key target) :
    ∃ ls', t'.HasLinks id ls' ∧ ls'.map Link.view = ls.map Link.view ++ [.inr (key, relationship)] := by
  obtain ⟨target', htarget', -⟩ := h.finds key target htarget
  have hleads : List.Forall₂ t'.Leads (added id) [.issue target' relationship] := by
    rw [hadded]
    exact .cons ⟨key, relationship, target', hread, htarget', rfl⟩ .nil
  obtain ⟨ls', hls', hviews⟩ := h.hasLinks hls hleads
  refine ⟨ls', hls', hviews.trans ?_⟩
  rw [List.map_singleton, Link.view, htarget'.id_eq h.orderly']

end Extends

end Tracker

end IssueTracker
