import IssueTracker.Proofs.Comment.Thread
import IssueTracker.Proofs.Link.Foreign
import IssueTracker.Proofs.Link.Posted
import IssueTracker.Proofs.Link.Sweep
import IssueTracker.Proofs.Tracker.Scope
/-!
# What others keep is out of sight and out of reach

Web links are added, removed and listed on two trackers, one of which holds somebody else's entries and comments
besides. An entry is put or removed by the id of a link, which carries the mark that no entry of others has, and a
comment is posted or removed by the link it stands for. So every run leaves the one tracker holding more than the
other by the same entries and comments, and gives the same results on both, as long as no issue's document links
to a comment in the place of an issue.
-/

namespace IssueTracker

open WebLink.EntryForm (isOwn read numbered)
open Tracker (globalIdOf hasId Scope)

/-! ## Links that carry the mark -/

namespace WebLink

/-- A link whose id carries this library's mark. -/
def Marked (l : WebLink) : Prop := ∃ text, l.globalId = idMark ++ text

/-- A link that was put together, or listed for an issue of some tracker. -/
inductive Obtained (l : WebLink) : Prop
  | built (h : l.storedId = none)
  | listed {w : World} {p : Project} {s : Snapshot} {ls : List Link}
      (hlist : w.result (s.links p) = .ok ls) (hmem : .web l ∈ ls)

theorem marked_of_list {w : World} {store : RemoteLinks} {links : List WebLink}
    (h : w.result store.list = .ok links) : ∀ l ∈ links, l.Marked := by
  rw [RemoteLinks.list, World.result_bind_eq_ok] at h
  obtain ⟨document, -, hread⟩ := h
  rw [World.result_readEntries] at hread
  intro l hl
  obtain ⟨entry, hentry, hentryRead⟩ := source_of_mem hread hl
  have hown := (List.mem_filter.1 hentry).2
  obtain ⟨text, hid⟩ := EntryForm.isOwn_iff.1 hown
  have hglobal := EntryForm.globalIdOf_of_read hown hentryRead
  rw [EntryForm.globalIdOf_of_get? hid] at hglobal
  exact ⟨text, (Json.str.inj hglobal).symm⟩

theorem marked_of_built {l : WebLink} (h : l.storedId = none) : l.Marked :=
  ⟨l.uri.text, by simp [globalId, h, derivedId]⟩

theorem Obtained.marked {l : WebLink} (h : l.Obtained) : l.Marked := by
  cases h with
  | built h => exact marked_of_built h
  | @listed w p s ls hlist hmem =>
    cases hstored : l.storedId with
    | none => exact marked_of_built hstored
    | some id =>
      refine marked_of_list (s.parts_of_links w p hlist).1 l (List.mem_filterMap.2 ⟨_, hmem, ?_⟩)
      simp [Link.native?, hstored]

/-- No entry of others has the id of such a link. -/
theorem Marked.globalIdOf_ne {l : WebLink} (h : l.Marked) {entry : Json} (hentry : isOwn entry = false) :
    (globalIdOf entry == .str l.globalId) = false := by
  obtain ⟨text, hid⟩ := h
  rw [Bool.eq_false_iff]
  intro hbeq
  have hget := EntryForm.get?_of_globalIdOf ((Json.beq_str _ _).1 hbeq)
  rw [hid] at hget
  rw [EntryForm.isOwn_iff.2 ⟨text, hget⟩] at hentry
  cases hentry

end WebLink

/-! ## Entries and comments -/

namespace Interspersed

variable {own others all : List Json} {l : WebLink}

/-- The entry of a link is put among the own ones. -/
theorem putEntries (h : Interspersed Json.SameButId own others all) (hl : l.Marked)
    (hothers : ∀ entry ∈ others, isOwn entry = false) (m n : Json) :
    Interspersed Json.SameButId (putEntries l m own) others (putEntries l n all) := by
  unfold IssueTracker.putEntries
  induction h with
  | nil => exact .own (WebLink.EntryForm.sameButId_numbered l m n) .nil
  | @own a b _ _ _ hsame hrest ih =>
    rw [upserted, upserted, hsame.globalIdOf_eq]
    split
    · exact .own (WebLink.EntryForm.sameButId_numbered l _ _) hrest
    · exact (ih hothers).own hsame
  | other entry _ ih =>
    rw [upserted, hl.globalIdOf_ne (hothers entry List.mem_cons_self)]
    exact (ih fun e he => hothers e (List.mem_cons_of_mem _ he)).other entry

/-- Only own entries have the ids of links. -/
theorem withoutIds (h : Interspersed Json.SameButId own others all) {ids : List String}
    (hids : ∀ id ∈ ids, ∃ l : WebLink, l.Marked ∧ l.globalId = id)
    (hothers : ∀ entry ∈ others, isOwn entry = false) :
    Interspersed Json.SameButId (withoutIds ids own) others (withoutIds ids all) := by
  refine h.filter (fun a b hsame => by rw [hsame.globalIdOf_eq]) fun entry hentry => ?_
  rw [Bool.not_eq_true', List.any_eq_false]
  intro id hid
  obtain ⟨l, hl, rfl⟩ := hids id hid
  simp [hl.globalIdOf_ne (hothers entry hentry)]

end Interspersed

/-- Comments that can be listed are a thread. -/
theorem World.Holds.of_list {w : World} {s : Snapshot} {p : Project} {comments : List Comment}
    (hw : w.tracker.Reachable) (hlist : w.result (s.commentStore p).list = .ok comments) :
    w.Holds s (w.tracker.commentsOf s.id) := by
  have hon := Snapshot.on_of_comments hw.commentsNumbered hlist
  have hreads := (CommentStore.list_eq_ok hon p.visibilityRole).1 hlist
  refine ⟨hon, rfl, .of_numbered (hw.commentsNumbered s.id) fun doc hdoc => ?_⟩
  exact (result_of_mem hreads hdoc).imp fun _ => And.right

/-! ## Requests about links -/

/-- A request about the remote links or the comments of a snapshot's issue. -/
def Snapshot.AsksLinks (s : Snapshot) (r : Request) : Prop := s.AsksRemoteLinks r ∨ s.AsksComments r

/-- What is asked about the links of an issue changes the entries and the comments of this issue alone. -/
theorem Snapshot.AsksLinks.bounds {s : Snapshot} {r : Request} (h : s.AsksLinks r) :
    Scope.Bounds { comments := [s.id], remoteLinks := [s.id] } r := by
  intro t
  rcases h with hremote | ⟨rest, hcomments⟩
  · rw [Tracker.respond_eq t r hremote]
    exact (Scope.Covers.noted t r).trans (Scope.covers_remoteLinksRoute List.mem_cons_self)
  · rw [Tracker.respond_eq t r hcomments]
    refine (Scope.Covers.noted t r).trans ?_
    match rest with
    | [] => exact Scope.covers_commentsRoute List.mem_cons_self
    | [id] => exact Scope.covers_commentRoute List.mem_cons_self id
    | _ :: _ :: _ => exact .refl _

theorem Snapshot.AsksLinks.rest_respond {s : Snapshot} {r : Request} (h : s.AsksLinks r) (t : Tracker) :
    (t.respond r).1.butComments.butRemoteLinks = t.butComments.butRemoteLinks := by
  rcases h with hremote | hcomments
  · exact (congrArg Tracker.butComments (s.butRemoteLinks_respond t r hremote) :)
  · exact congrArg Tracker.butRemoteLinks (s.butComments_respond t r hcomments)

/-- A program ends in the same way in two worlds, and the one still holds more than the other. -/
def World.Alike {α : Type} (entries docs : String → List Json) (w w' : World) (p : Program α) : Prop :=
  w.result p = w'.result p ∧ (w.after p).tracker.Augments entries docs (w'.after p).tracker

/-- One program after another. -/
theorem World.Alike.bind {α β : Type} {entries docs : String → List Json} {w w' : World} {p : Program α}
    {f : α → Program β} (hp : World.Alike entries docs w w' p)
    (hf : ∀ a, w.result p = .ok a → World.Alike entries docs (w.after p) (w'.after p) (f a)) :
    World.Alike entries docs w w' (p >>= f) := by
  obtain ⟨hsame, hafter⟩ := hp
  cases hresult : w.result p with
  | error e =>
    have hresult' := hsame.symm.trans hresult
    refine ⟨?_, ?_⟩
    · rw [World.result_bind, World.result_bind, hresult, hresult']
      simp only [Except.bind]
    · rw [World.after_bind_error _ hresult, World.after_bind_error _ hresult']
      exact hafter
  | ok a =>
    have hresult' := hsame.symm.trans hresult
    unfold World.Alike
    rw [World.result_bind_ok _ hresult, World.result_bind_ok _ hresult', World.after_bind_ok _ hresult,
      World.after_bind_ok _ hresult']
    exact hf a hresult

namespace Tracker.Augments

variable {entries docs : String → List Json} {w w' : World} {s : Snapshot}
  (h : w.tracker.Augments entries docs w'.tracker)
include h

/-- What asks about the links of one issue leaves it so as long as it does with the entries and the comments of
this issue. -/
theorem after_asks {α β : Type} {p : Program α} {q : Program β} (hp : p.Sends s.AsksLinks)
    (hq : q.Sends s.AsksLinks)
    (hremote : Interspersed Json.SameButId ((w.after p).tracker.remoteLinksOf s.id) (entries s.id)
      ((w'.after q).tracker.remoteLinksOf s.id))
    (hcomments : Interspersed Json.SameButId ((w.after p).tracker.commentsOf s.id) (docs s.id)
      ((w'.after q).tracker.commentsOf s.id)) :
    (w.after p).tracker.Augments entries docs (w'.after q).tracker := by
  have hrest {α : Type} {p : Program α} (hp : p.Sends s.AsksLinks) (w : World) :
      (w.after p).tracker.butComments.butRemoteLinks = w.tracker.butComments.butRemoteLinks :=
    World.after_keeps (fun t => t.butComments.butRemoteLinks) (fun t _ hr => hr.rest_respond t) hp w
  have hcovers := World.covers_after (hp.mono fun _ hr => hr.bounds) w
  have hcovers' := World.covers_after (hq.mono fun _ hr => hr.bounds) w'
  refine ⟨h.reachable.after p, h.reachable'.after q, ?_, fun key => ?_, fun key => ?_, h.notOwn, h.noLink⟩
  · rw [hrest hp, hrest hq, h.rest]
  · by_cases hkey : key = s.id
    · rw [hkey]
      exact hremote
    · rw [hcovers.remoteLinks key (by simpa using hkey), hcovers'.remoteLinks key (by simpa using hkey)]
      exact h.remoteLinks key
  · by_cases hkey : key = s.id
    · rw [hkey]
      exact hcomments
    · rw [hcovers.comments key (by simpa using hkey), hcovers'.comments key (by simpa using hkey)]
      exact h.comments key

/-- What asks about the remote links of one issue alone. -/
theorem after_asksRemoteLinks {α β : Type} {p : Program α} {q : Program β} (hp : p.Sends s.AsksRemoteLinks)
    (hq : q.Sends s.AsksRemoteLinks)
    (hremote : Interspersed Json.SameButId ((w.after p).tracker.remoteLinksOf s.id) (entries s.id)
      ((w'.after q).tracker.remoteLinksOf s.id)) :
    (w.after p).tracker.Augments entries docs (w'.after q).tracker := by
  refine h.after_asks (hp.mono fun _ => .inl) (hq.mono fun _ => .inl) hremote ?_
  rw [commentsOf_of_butRemoteLinks (World.after_keeps Tracker.butRemoteLinks s.butRemoteLinks_respond hp w),
    commentsOf_of_butRemoteLinks (World.after_keeps Tracker.butRemoteLinks s.butRemoteLinks_respond hq w')]
  exact h.comments s.id

/-- What asks about the comments of one issue alone. -/
theorem after_asksComments {α β : Type} {p : Program α} {q : Program β} (hp : p.Sends s.AsksComments)
    (hq : q.Sends s.AsksComments)
    (hcomments : Interspersed Json.SameButId ((w.after p).tracker.commentsOf s.id) (docs s.id)
      ((w'.after q).tracker.commentsOf s.id)) :
    (w.after p).tracker.Augments entries docs (w'.after q).tracker := by
  refine h.after_asks (hp.mono fun _ => .inr) (hq.mono fun _ => .inr) ?_ hcomments
  rw [remoteLinksOf_of_butComments (World.after_keeps Tracker.butComments s.butComments_respond hp w),
    remoteLinksOf_of_butComments (World.after_keeps Tracker.butComments s.butComments_respond hq w')]
  exact h.remoteLinks s.id

/-- Nothing happens. -/
theorem pure {α : Type} (a : α) : World.Alike entries docs w w' (pure a) := by
  unfold World.Alike
  rw [World.result_pure, World.result_pure, World.after_pure, World.after_pure]
  exact ⟨rfl, h⟩

/-- What only reads and gives the same leaves the worlds alike. -/
theorem reads {α : Type} {p : Program α} (hp : p.Sends Request.Reads) (hsame : w.result p = w'.result p) :
    World.Alike entries docs w w' p :=
  ⟨hsame, h.after_reads hp hp⟩

/-- Adding to the remote links. -/
theorem add_remote {l : WebLink} (hl : l.Marked) (s : Snapshot) :
    World.Alike entries docs w w' ((RemoteLinks.mk s.path).add l) := by
  by_cases hon : s.On w.tracker
  · obtain ⟨hresult, -, hentries, -⟩ := RemoteLinks.adds hon l
    obtain ⟨hresult', -, hentries', -⟩ := RemoteLinks.adds (h.on_iff.2 hon) l
    have hsends := RemoteLinks.sends_add hon.slashFree l
    refine ⟨hresult.trans hresult'.symm, h.after_asksRemoteLinks hsends hsends ?_⟩
    rw [hentries, hentries']
    exact (h.remoteLinks s.id).putEntries hl (h.notOwn s.id) _ _
  · let r : Request := .post (RemoteLinks.mk s.path).path (WebLink.EntryForm.render l)
    obtain ⟨what, hanswer, hanswer'⟩ := h.respond_missing (r := r) hon (s.remoteLinks_missing rfl)
    have hunlogged {w : World} (hanswer : w.tracker.respond r = (w.tracker.noted r, .error (.notFound what))) :
        (w.after ((RemoteLinks.mk s.path).add l)).tracker.unlogged = w.tracker.unlogged := by
      rw [RemoteLinks.add, World.after_perform, World.answered, hanswer]
      rfl
    constructor
    · rw [RemoteLinks.add, World.result_perform, World.result_perform, hanswer, hanswer']
    · exact h.of_unlogged (h.reachable.after _) (h.reachable'.after _) (hunlogged hanswer) (hunlogged hanswer')

/-- Adding to the comments. -/
theorem add_comment (l : WebLink) (p : Project) (s : Snapshot) :
    World.Alike entries docs w w' ((s.commentStore p).addLink l) := by
  let store := s.commentStore p
  have hsame := h.result_listLinks p s
  cases hposted : w.result store.listLinks with
  | error e => exact (h.reads store.reads_listLinks hsame).bind fun _ hok => absurd (hposted.symm.trans hok) nofun
  | ok posted =>
    have hposted' : w'.result store.listLinks = .ok posted := hsame.symm.trans hposted
    cases hfound : posted.any (·.sameTarget l) with
    | true =>
      obtain ⟨hresult, hafter, -⟩ := CommentStore.addLink_found hposted hfound
      obtain ⟨hresult', hafter', -⟩ := CommentStore.addLink_found hposted' hfound
      refine ⟨hresult.trans hresult'.symm, ?_⟩
      rw [hafter, hafter']
      exact h.after_reads store.reads_listLinks store.reads_listLinks
    | false =>
      have hon : s.On w.tracker := by
        obtain ⟨comments, hlist, -⟩ := (World.result_bind_eq_ok _).1 hposted
        exact Snapshot.on_of_comments h.reachable.commentsNumbered hlist
      obtain ⟨hresult, -, -, hcomments, -⟩ := CommentStore.addLink_new hon p.visibilityRole hposted hfound
      obtain ⟨hresult', -, -, hcomments', -⟩ :=
        CommentStore.addLink_new (h.on_iff.2 hon) p.visibilityRole hposted' hfound
      have hsends : (store.addLink l).Sends s.AsksComments :=
        CommentStore.sends_addLink hon.slashFree p.visibilityRole l
      refine ⟨hresult.trans hresult'.symm, h.after_asksComments hsends hsends ?_⟩
      rw [show (w.after (store.addLink l)).tracker.commentsOf s.id = _ from hcomments,
        show (w'.after (store.addLink l)).tracker.commentsOf s.id = _ from hcomments']
      exact (h.comments s.id).append (CommentStore.sameButId_document _ h.user_eq _)

/-- Removing from the remote links. -/
theorem remove_remote {l : WebLink} (hl : l.Marked) (s : Snapshot) :
    World.Alike entries docs w w' ((RemoteLinks.mk s.path).remove l) := by
  let store := RemoteLinks.mk s.path
  have hsame := h.result_list s
  cases hlist : w.result store.list with
  | error e => exact (h.reads store.reads_list hsame).bind fun _ hok => absurd (hlist.symm.trans hok) nofun
  | ok links =>
    have hlist' : w'.result store.list = .ok links := hsame.symm.trans hlist
    have hon := Snapshot.on_of_list h.reachable.commentsNumbered hlist
    obtain ⟨hresult, -, hentries, -⟩ := RemoteLinks.removes_ids hon hlist l
    obtain ⟨hresult', -, hentries', -⟩ := RemoteLinks.removes_ids (h.on_iff.2 hon) hlist' l
    have hsends : (store.remove l).Sends s.AsksRemoteLinks := RemoteLinks.sends_remove hon.slashFree l
    refine ⟨hresult.trans hresult'.symm, h.after_asksRemoteLinks hsends hsends ?_⟩
    rw [hentries, hentries']
    refine (h.remoteLinks s.id).withoutIds (fun id hid => ?_) (h.notOwn s.id)
    rcases mem_idsToRemove.1 hid with rfl | ⟨l', hl', -, rfl⟩
    · exact ⟨l, hl, rfl⟩
    · exact ⟨l', WebLink.marked_of_list hlist l' hl', rfl⟩

/-- Removing from the comments. -/
theorem remove_comment (l : WebLink) (p : Project) (s : Snapshot) :
    World.Alike entries docs w w' ((s.commentStore p).removeLink l) := by
  let store := s.commentStore p
  have hsame : (w.result store.list).map linksIn = (w'.result store.list).map linksIn := h.result_comments p s
  rcases errors_or_values hsame with ⟨e, hlist, hlist'⟩ | ⟨comments, comments', hlist, hlist', -⟩
  · have hreads := h.reads store.reads_list (hlist.trans hlist'.symm)
    exact hreads.bind fun _ hok => absurd (hlist.symm.trans hok) nofun
  · have hholds := World.Holds.of_list h.reachable hlist
    have hholds' := World.Holds.of_list h.reachable' hlist'
    obtain ⟨hresult, hafter⟩ := hholds.removeLink p.visibilityRole l
    obtain ⟨hresult', hafter'⟩ := hholds'.removeLink p.visibilityRole l
    have hsends : (store.removeLink l).Sends s.AsksComments :=
      CommentStore.sends_removeLink hholds.on.slashFree p.visibilityRole l
    have hposts (a b : Json) (hab : a.SameButId b) : (!postsTo l.uri a) = !postsTo l.uri b := by
      rw [postsTo, postsTo, hab.postedLink?_eq]
    refine ⟨hresult.trans hresult'.symm, h.after_asksComments hsends hsends ?_⟩
    rw [show (w.after (store.removeLink l)).tracker.commentsOf s.id = _ from hafter.comments_eq,
      show (w'.after (store.removeLink l)).tracker.commentsOf s.id = _ from hafter'.comments_eq]
    refine (h.comments s.id).filter hposts fun doc hdoc => ?_
    obtain ⟨body, hbody, hnone⟩ := h.noLink s.id doc hdoc
    have hposted : postedLink? doc = none := by rw [postedLink?, Json.getD, hbody]; exact hnone
    rw [postsTo, hposted]
    rfl

end Tracker.Augments

/-! ## Runs -/

/-- The links that a call is about, if any, were put together or listed. -/
def LinkCall.Allowed (c : LinkCall) : Prop := ∀ l, c.link? = some l → l.Obtained

/-- The world after calls in turn. -/
def World.played (w : World) (p : Project) (calls : List (Snapshot × LinkCall)) : World :=
  calls.foldl (fun w call => w.after (call.2.program p call.1)) w

namespace Tracker.Augments

variable {entries docs : String → List Json} {w w' : World} (h : w.tracker.Augments entries docs w'.tracker)
  {p : Project}
include h

/-- A web link goes among the comments or the remote links. -/
theorem addLink {l : WebLink} (hl : l.Marked) (s : Snapshot) :
    World.Alike entries docs w w' (s.addLink p (.web l)) := by
  rw [Snapshot.addLink, Snapshot.addWebLink]
  split
  · exact h.add_comment l p s
  · exact h.add_remote hl s

/-- A web link is removed from both. -/
theorem removeLink {l : WebLink} (hl : l.Marked) (s : Snapshot) :
    World.Alike entries docs w w' (s.removeLink p (.web l)) := by
  have hremote := h.remove_remote hl s
  exact hremote.bind fun _ _ => hremote.2.remove_comment l p s

/-- One call. Only the document's own links, which are fetched one by one, can lead to a comment of others. -/
theorem call {c : LinkCall} (hc : c.Allowed) (s : Snapshot) :
    (w.after (c.program p s)).tracker.Augments entries docs (w'.after (c.program p s)).tracker ∧
      ((c = .list → ∀ key id, s.LeadsToComment key id →
          w.tracker.hasComment key id = w'.tracker.hasComment key id) →
        w.result (c.program p s) = w'.result (c.program p s)) := by
  cases c with
  | add l =>
    have hadd := h.addLink (p := p) (hc l rfl).marked s
    have hcall : World.Alike entries docs w w' ((LinkCall.add l).program p s) :=
      hadd.bind fun _ _ => hadd.2.pure []
    exact ⟨hcall.2, fun _ => hcall.1⟩
  | remove l =>
    have hremove := h.removeLink (p := p) (hc l rfl).marked s
    have hcall : World.Alike entries docs w w' ((LinkCall.remove l).program p s) :=
      hremove.bind fun _ _ => hremove.2.pure []
    exact ⟨hcall.2, fun _ => hcall.1⟩
  | list =>
    have hreads := s.reads_links p
    exact ⟨h.after_reads hreads hreads, fun hcomment => h.result_links p s (hcomment rfl)⟩

/-- Any run of calls. -/
theorem played {calls : List (Snapshot × LinkCall)} (hcalls : ∀ call ∈ calls, call.2.Allowed) :
    (w.played p calls).tracker.Augments entries docs (w'.played p calls).tracker := by
  induction calls generalizing w w' with
  | nil => exact h
  | cons call rest ih =>
    exact ih (h.call (hcalls call List.mem_cons_self) call.1).1 fun c hc => hcalls c (List.mem_cons_of_mem _ hc)

end Tracker.Augments

/-- Whatever web links are put together or listed, adding, removing and listing them gives the same results with
what others keep as without it, leaves that as it is, and leaves the same of the own but for ids. A listing alone
can tell the difference, where a link of the issue's document leads to a comment that is there in one tracker only.
When the links are listed, the own entries come first in their order, unless the tracker denies to list them, then
the links in the comments, then the links of the document. -/
theorem foreign_data_invisible (p : Project) :
    (∀ {entries docs : String → List Json} {w w' : World}, w.tracker.Augments entries docs w'.tracker →
      ∀ calls : List (Snapshot × LinkCall), (∀ call ∈ calls, call.2.Allowed) →
        (w.played p calls).tracker.Augments entries docs (w'.played p calls).tracker ∧
        ∀ (s : Snapshot) (c : LinkCall), c.Allowed →
          (c = .list → ∀ key id, s.LeadsToComment key id →
            (w.played p calls).tracker.hasComment key id = (w'.played p calls).tracker.hasComment key id) →
          (w.played p calls).result (c.program p s) = (w'.played p calls).result (c.program p s)) ∧
    ∀ {w : World}, w.tracker.Reachable → ∀ (s : Snapshot) (ls : List Link), w.result (s.links p) = .ok ls →
      ∃ (remote : List WebLink) (comments : List Comment) (issues : List Link),
        ((if w.tracker.deniesRemoteLinks then [] else w.tracker.remoteLinksOf s.id).filter isOwn).map
          (fun entry => (read entry).map Prod.fst) = remote.map .ok ∧
        (w.tracker.commentsOf s.id).map Comment.ofJson = comments.map .ok ∧
        List.Forall₂ w.tracker.Leads s.entries issues ∧
        ls = remote.map .web ++ (Tracker.linksIn comments).map .web ++ issues := by
  refine ⟨fun {entries docs w w'} h calls hcalls => ?_, fun {w} hw s ls hlinks => ?_⟩
  · have hplayed := h.played (p := p) hcalls
    exact ⟨hplayed, fun s c hc hcomment => (hplayed.call hc s).2 hcomment⟩
  · have hon := Snapshot.on_of_list hw.commentsNumbered (s.parts_of_links w p hlinks).1
    obtain ⟨webs, issues, ⟨remote, comments, hremote, hcomments, rfl⟩, hissues, rfl⟩ :=
      (World.result_links hw.orderly rfl hon p).1 hlinks
    exact ⟨remote, comments, issues, hremote, hcomments, hissues, by rw [List.map_append]⟩

/-! ## A crowded tracker -/

namespace Tracker

/-- The tracker with one own entry, to which somebody else added an entry and a remark. -/
def crowded : Tracker := ((untidy.addRemoteLink "X-1" foreignEntry).addComment "X-1" "rk" "Seen on Linux").1

theorem reachable_untidy : untidy.Reachable :=
  (reachable_ofIssue "X-1" "Open" []).step (.remoteLink _ "X-1" WebLink.untidyEntry)

theorem augments_crowded : ∃ entries docs, untidy.Augments entries docs crowded ∧
    (entries "X-1").length = 1 ∧ (docs "X-1").length = 1 := by
  have hforeign : isOwn foreignEntry = false := by decide +kernel
  have hremark : WebLink.CommentForm.parse? "Seen on Linux" = none := by decide +kernel
  have hentry := reachable_untidy.augments_self.addRemoteLink "X-1" hforeign
  exact ⟨_, _, hentry.addComment "X-1" "rk" hremark, rfl, rfl⟩

end Tracker

/-- The calls have the same results with what others put in, and of the entries the own one is listed. -/
theorem foreign_data_invisible_crowded :
    let w : World := ⟨.untidy, none⟩
    let w' : World := ⟨.crowded, none⟩
    let s := Snapshot.ofIssue "X-1" "Open"
    let calls := [(s, LinkCall.add .mirror), (s, .list)]
    (∃ entries docs, (w.tracker.Augments entries docs w'.tracker ∧ (entries "X-1").length = 1 ∧
        (docs "X-1").length = 1) ∧
      (w.played .unrestricted calls).tracker.Augments entries docs (w'.played .unrestricted calls).tracker) ∧
    (∀ call ∈ calls, call.2.Allowed) ∧ (∀ key id, ¬ s.LeadsToComment key id) ∧
    (w.played .unrestricted calls).result (s.links .unrestricted) =
      (w'.played .unrestricted calls).result (s.links .unrestricted) ∧
    w'.tracker.Reachable ∧ ∃ ls, w'.result (s.links .unrestricted) = .ok ls ∧ ls.length = 1 ∧
      ∃ (remote : List WebLink) (comments : List Comment) (issues : List Link),
        ls = remote.map .web ++ (Tracker.linksIn comments).map .web ++ issues := by
  intro w w' s calls
  obtain ⟨entries, docs, haugments, hlengths⟩ : ∃ entries docs, w.tracker.Augments entries docs w'.tracker ∧
    (entries "X-1").length = 1 ∧ (docs "X-1").length = 1 := Tracker.augments_crowded
  have hallowed : ∀ call ∈ calls, call.2.Allowed := by
    intro call hcall l hl
    simp only [calls, List.mem_cons, List.not_mem_nil, or_false] at hcall
    rcases hcall with rfl | rfl
    · obtain rfl := Option.some.inj hl
      exact .built rfl
    · cases hl
  have hapart : ∀ key id, ¬ s.LeadsToComment key id := by
    rintro key id ⟨entry, hentry, -⟩
    cases hentry
  have hlength : ((w'.result (s.links .unrestricted)).map List.length).toOption = some 1 := by decide +kernel
  -- from here on the worlds are not computed with
  clear_value w w' s calls
  obtain ⟨hruns, hlists⟩ := foreign_data_invisible .unrestricted
  obtain ⟨hplayed, hresults⟩ := hruns haugments calls hallowed
  have hlistAllowed : LinkCall.list.Allowed := fun l hl => by cases hl
  have hsame := hresults s .list hlistAllowed fun _ key id hleads => absurd hleads (hapart key id)
  refine ⟨⟨entries, docs, ⟨haugments, hlengths⟩, hplayed⟩, hallowed, hapart, hsame, haugments.reachable', ?_⟩
  cases hlist : w'.result (s.links .unrestricted) with
  | error e =>
    rw [hlist] at hlength
    cases hlength
  | ok ls =>
    rw [hlist] at hlength
    obtain ⟨remote, comments, issues, -, -, -, hls⟩ := hlists haugments.reachable' s ls hlist
    exact ⟨ls, rfl, Option.some.inj hlength, remote, comments, issues, hls⟩

/-- The tracker with one own entry, when it no longer lets the entries be listed. -/
def Tracker.denying : Tracker := { untidy with deniesRemoteLinks := true }

theorem Tracker.links_denying :
    World.result ⟨.denying, none⟩ ((Snapshot.ofIssue "X-1" "Open").links .unrestricted) = .ok [] := rfl

/-- A link to a comment, as if it was an issue. -/
def Json.linkToComment : Json :=
  .ofMembers [("type", .ofMembers [("outward", .str "relates to")]),
    ("outwardIssue", .ofMembers [("key", .str "X-1/comment/10000")])]

/-- A tracker with an issue whose document lists that link. -/
def Tracker.misdirected : Tracker :=
  let t := Tracker.ofIssue "X-1" "Open" []
  (t.setField? "X-1" "issuelinks" (.arr [.linkToComment])).getD t

theorem Tracker.reachable_misdirected : Tracker.misdirected.Reachable := by
  have hfield : (Tracker.ofIssue "X-1" "Open" []).setField? "X-1" "issuelinks" (.arr [.linkToComment]) =
      some Tracker.misdirected := rfl
  exact (reachable_ofIssue "X-1" "Open" []).step (.field hfield)

/-- The snapshot of that issue. -/
def Snapshot.misdirected : Snapshot :=
  ⟨(Table.get? "X-1" Tracker.misdirected.issues).getD .null, "X-1", "Title", "Open", some []⟩

/-- An own entry that the tracker does not let be listed is not among the links. Where a link of the document leads
to a comment, the listing fails in another way once there is such a comment. -/
theorem links_show_denial_and_comment :
    let s := Snapshot.ofIssue "X-1" "Open"
    let denied : World := ⟨.denying, none⟩
    let w : World := ⟨.misdirected, none⟩
    let w' : World := ⟨(Tracker.misdirected.addComment "X-1" "rk" "Seen on Linux").1, none⟩
    (denied.tracker.Reachable ∧ (denied.tracker.remoteLinksOf s.id).filter isOwn = [WebLink.untidyEntry] ∧
      denied.result (s.links .unrestricted) = .ok []) ∧
    (∃ entries docs, w.tracker.Augments entries docs w'.tracker) ∧
    w.result (Project.issue "X-1") = .ok (some .misdirected) ∧
    w.result (Snapshot.misdirected.links .unrestricted) ≠ w'.result (Snapshot.misdirected.links .unrestricted) := by
  intro s denied w w'
  have hremark : WebLink.CommentForm.parse? "Seen on Linux" = none := by decide +kernel
  have hdenied : denied.tracker.Reachable := Tracker.reachable_untidy.step (.denial _)
  have hown : (denied.tracker.remoteLinksOf s.id).filter isOwn = [WebLink.untidyEntry] := by rfl
  have hwithout : (w.result (Snapshot.misdirected.links .unrestricted)).map List.length =
      .error (.document "linked issue X-1/comment/10000 not found") := by decide +kernel
  have hwith : (w'.result (Snapshot.misdirected.links .unrestricted)).map List.length =
      .error (.document "missing /key") := by decide +kernel
  refine ⟨⟨hdenied, hown, Tracker.links_denying⟩,
    ⟨_, _, Tracker.reachable_misdirected.augments_self.addComment "X-1" "rk" hremark⟩, by rfl, ?_⟩
  intro hsame
  rw [hsame, hwith] at hwithout
  simp at hwithout

end IssueTracker
