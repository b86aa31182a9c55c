import IssueTracker.Proofs.Link.Native
import IssueTracker.Proofs.Link.Posted
import IssueTracker.Proofs.Tracker.Reachable
/-!
# Removing a link everywhere

Removing a link takes away all that leads to its address: the own entries among the remote links,
whatever spelling they are stored under, and the comments that stand for a link with it. All else
stays as it is, in its order, so that nothing is left to do when the link is removed again.
-/

namespace IssueTracker

open WebLink.EntryForm (isOwn read)

/-! ## Links that can be removed -/

/-- A link that was put together, or listed for an issue whose entries can be traced. -/
inductive WebLink.Known (l : WebLink) : Prop
  | built (h : l.storedId = none)
  | listed {w : World} {p : Project} {s : Snapshot} {ls : List Link} (hreachable : w.tracker.Reachable)
      (htraceable : Traceable (w.tracker.remoteLinksOf s.id)) (hlist : w.result (s.links p) = .ok ls)
      (hmem : .web l ∈ ls)

/-- The id of a known link gives its address. -/
theorem WebLink.Known.addressed {l : WebLink} (h : l.Known) (hback : l.uri.ReadsBack) : l.Addressed := by
  have hderived (hl : l.storedId = none) : l.Addressed :=
    ⟨l.uri.text, by simp [globalId, hl, derivedId], hback⟩
  cases h with
  | built hl => exact hderived hl
  | @listed w p s ls hreachable htraceable hlist hmem =>
    cases hstored : l.storedId with
    | none => exact hderived hstored
    | some id =>
      obtain ⟨hremote, -⟩ := s.parts_of_links w p hlist
      have hon := Snapshot.on_of_list hreachable.commentsNumbered hremote
      have hl : l ∈ ls.filterMap Link.native? :=
        List.mem_filterMap.2 ⟨_, hmem, by simp [Link.native?, hstored]⟩
      obtain ⟨entry, hentry, hread⟩ := source_of_mem ((RemoteLinks.list_eq_ok hon).1 hremote) hl
      obtain ⟨hmem, hown⟩ := List.mem_filter.1 hentry
      split at hmem
      · cases hmem
      · exact htraceable entry hmem hown l hread

/-! ## The remote links -/

namespace RemoteLinks

variable {w : World} {s : Snapshot} (hon : s.On w.tracker)
include hon

/-- Ids that no entry has are removed without a trace but in the log. -/
theorem unlogged_deleteIds {ids : List String}
    (hids : withoutIds ids (w.tracker.remoteLinksOf s.id) = w.tracker.remoteLinksOf s.id) :
    (w.after ((RemoteLinks.mk s.path).deleteIds ids)).tracker.unlogged = w.tracker.unlogged := by
  induction ids generalizing w with
  | nil => rfl
  | cons id rest ih =>
    obtain ⟨hresult, t, hunlogged, hafter⟩ := after_deleteId hon id
    rw [withoutIds_cons] at hids
    -- No id removes anything, since the first leaves no more than the last.
    have hfirst : withoutIds [id] (w.tracker.remoteLinksOf s.id) = w.tracker.remoteLinksOf s.id := by
      refine List.filter_sublist.eq_of_length_le ?_
      conv_lhs => rw [← hids]
      exact List.length_filter_le _ _
    rw [hfirst] at hids
    have hsame : (w.after ((RemoteLinks.mk s.path).deleteId id)).tracker.unlogged = w.tracker.unlogged := by
      rw [← Tracker.remoteLinksOf_of_unlogged hunlogged] at hfirst
      rw [hafter, t.deleteRemoteLinks_absent s.id hfirst, hunlogged]
    rw [deleteIds, World.after_bind_ok _ hresult, ih (hon.of_unlogged hsame)
      (Tracker.remoteLinksOf_of_unlogged hsame s.id ▸ hids), hsame]

variable (hpermitted : w.tracker.deniesRemoteLinks = false) (htraceable : Traceable (w.tracker.remoteLinksOf s.id))
  {l : WebLink} (hl : l.Addressed) {links : List WebLink} (hlist : w.result (RemoteLinks.mk s.path).list = .ok links)
include hpermitted hlist htraceable hl

/-- Removing a link removes the entries that lead to its address. -/
theorem removes :
    let w' := w.after ((RemoteLinks.mk s.path).remove l)
    w.result ((RemoteLinks.mk s.path).remove l) = .ok () ∧
      w'.tracker.butRemoteLinks = w.tracker.butRemoteLinks ∧
      w'.tracker.remoteLinksOf s.id = (w.tracker.remoteLinksOf s.id).filter (!leadsTo l.uri ·) := by
  obtain ⟨hresult, hbut, hentries, -⟩ := removes_ids hon hlist l
  rw [withoutIds_idsToRemove hl (shows_of_list hon hpermitted hlist) htraceable] at hentries
  exact ⟨hresult, hbut, hentries⟩

/-- Where none leads there, nothing is left to do. -/
theorem unlogged_remove (hnone : ∀ entry ∈ w.tracker.remoteLinksOf s.id, leadsTo l.uri entry = false) :
    (w.after ((RemoteLinks.mk s.path).remove l)).tracker.unlogged = w.tracker.unlogged := by
  have hunlogged := World.unlogged_after (RemoteLinks.mk s.path).reads_list w
  have hids : withoutIds (idsToRemove l links) (w.tracker.remoteLinksOf s.id) = w.tracker.remoteLinksOf s.id := by
    rw [withoutIds_idsToRemove hl (shows_of_list hon hpermitted hlist) htraceable, List.filter_eq_self]
    intro entry hentry
    rw [hnone entry hentry, Bool.not_false]
  rw [← Tracker.remoteLinksOf_of_unlogged hunlogged] at hids
  rw [remove, World.after_bind_ok _ hlist, unlogged_deleteIds (hon.of_unlogged hunlogged) hids, hunlogged]

end RemoteLinks

/-! ## The comments -/

namespace CommentStore

variable (w : World) (store : CommentStore)

/-- Comments that do not stand for the address are passed over. -/
theorem after_removeFrom_of_none {uri : Url} {comments : List Comment}
    (h : ∀ c ∈ comments, (WebLink.CommentForm.parse? c.body).any (·.uri = uri) = false) :
    w.after (store.removeFrom uri comments) = w := by
  induction comments with
  | nil => rfl
  | cons c rest ih =>
    have hcond : ¬ (WebLink.CommentForm.read c.body).link?.any (·.uri = uri) = true := by
      simpa [WebLink.CommentForm.parse?] using h c List.mem_cons_self
    rw [removeFrom, World.after_warnAll, if_neg hcond]
    exact ih fun c' hc' => h c' (List.mem_cons_of_mem _ hc')

end CommentStore

/-- Where no comment stands for the address, nothing is left to do. -/
theorem World.Holds.unlogged_removeLink {w : World} {s : Snapshot} {docs : List Json} (h : w.Holds s docs)
    (role : Option String) {l : WebLink} (hnone : ∀ doc ∈ docs, postsTo l.uri doc = false) :
    (w.after ((CommentStore.mk s.path role).removeLink l)).tracker.unlogged = w.tracker.unlogged := by
  obtain ⟨comments, hlist, hmap⟩ := h.result_list role
  have hpassed : ∀ c ∈ comments, (WebLink.CommentForm.parse? c.body).any (·.uri = l.uri) = false := by
    intro c hc
    obtain ⟨doc, hdoc, hread⟩ := source_of_mem hmap hc
    rw [← postedLink?_of_ofJson hread]
    exact hnone doc hdoc
  rw [CommentStore.removeLink, World.after_bind_ok _ hlist, CommentStore.after_removeFrom_of_none _ _ hpassed]
  exact World.unlogged_after (CommentStore.mk s.path role).reads_list w

/-! ## Both -/

/-- An issue whose remote links can be listed and traced, with its comments. -/
structure World.Sweepable (w : World) (s : Snapshot) (links : List WebLink) (docs : List Json) : Prop where
  holds : w.Holds s docs
  permitted : w.tracker.deniesRemoteLinks = false
  traceable : Traceable (w.tracker.remoteLinksOf s.id)
  list_eq : w.result (RemoteLinks.mk s.path).list = .ok links

namespace World.Sweepable

variable {w : World} {s : Snapshot} {links : List WebLink} {docs : List Json}

/-- Where a link can be removed there is all that is needed for it. -/
theorem of_remove {p : Project} {l : WebLink} (hreachable : w.tracker.Reachable)
    (hpermitted : w.tracker.deniesRemoteLinks = false) (htraceable : Traceable (w.tracker.remoteLinksOf s.id))
    (hl : l.Addressed) (hok : w.result (s.removeLink p (.web l)) = .ok ()) :
    ∃ links, w.Sweepable s links (w.tracker.commentsOf s.id) := by
  rw [Snapshot.removeLink, World.result_bind_eq_ok] at hok
  obtain ⟨_, hremote, hcomments⟩ := hok
  rw [RemoteLinks.remove, World.result_bind_eq_ok] at hremote
  obtain ⟨links, hlist, -⟩ := hremote
  rw [CommentStore.removeLink, World.result_bind_eq_ok] at hcomments
  obtain ⟨comments, hcomments, -⟩ := hcomments
  have hon := Snapshot.on_of_list hreachable.commentsNumbered hlist
  obtain ⟨-, hbut, -⟩ := RemoteLinks.removes hon hpermitted htraceable hl hlist
  -- The comments are still those from before the remote links were removed.
  have hreads := (CommentStore.list_eq_ok (hon.of_butRemoteLinks hbut) p.visibilityRole).1 hcomments
  rw [Tracker.commentsOf_of_butRemoteLinks hbut] at hreads
  refine ⟨links, ⟨hon, rfl, .of_numbered (hreachable.commentsNumbered s.id) fun doc hdoc => ?_⟩, hpermitted,
    htraceable, hlist⟩
  obtain ⟨c, -, hc⟩ := result_of_mem hreads hdoc
  exact ⟨c, hc⟩

/-- Removing a link succeeds, takes away all that leads to its address, and leaves what can be
swept again. -/
theorem removes (h : w.Sweepable s links docs) (p : Project) {l : WebLink} (hl : l.Addressed) :
    let w' := w.after (s.removeLink p (.web l))
    w.result (s.removeLink p (.web l)) = .ok () ∧
      w'.tracker.remoteLinksOf s.id = (w.tracker.remoteLinksOf s.id).filter (!leadsTo l.uri ·) ∧
      ∃ rest, w'.Sweepable s rest (docs.filter (!postsTo l.uri ·)) := by
  intro w'
  let store := CommentStore.mk s.path p.visibilityRole
  let w₁ := w.after ((RemoteLinks.mk s.path).remove l)
  obtain ⟨hremote, hbut, hentries⟩ := RemoteLinks.removes h.holds.on h.permitted h.traceable hl h.list_eq
  obtain ⟨hcomments, hholds⟩ := (h.holds.of_butRemoteLinks hbut).removeLink p.visibilityRole l
  have hw' : w' = w₁.after (store.removeLink l) := World.after_bind_ok _ hremote _
  have hkeeps : w'.tracker.butComments = w₁.tracker.butComments := by
    rw [hw']
    exact World.after_keeps Tracker.butComments s.butComments_respond
      (CommentStore.sends_removeLink h.holds.on.slashFree p.visibilityRole l) w₁
  have hsame := Tracker.remoteLinksOf_of_butComments hkeeps s.id
  have hpermitted : w'.tracker.deniesRemoteLinks = false :=
    (Tracker.deniesRemoteLinks_of_butComments hkeeps).trans
      ((Tracker.deniesRemoteLinks_of_butRemoteLinks hbut).trans h.permitted)
  rw [← hw'] at hholds
  have hshows := RemoteLinks.shows_of_list h.holds.on h.permitted h.list_eq
  obtain ⟨rest, hrest⟩ := hshows.filter (!leadsTo l.uri ·)
  refine ⟨(World.result_bind_ok _ hremote _).trans hcomments, hsame.trans hentries, rest, hholds, hpermitted, ?_, ?_⟩
  · rw [hsame, hentries]
    exact fun entry hentry => h.traceable entry (List.mem_filter.1 hentry).1
  · rw [RemoteLinks.list_eq_ok hholds.on, hpermitted, hsame, hentries]
    exact hrest

/-- Where nothing leads to the address, removing a link changes nothing but the log. -/
theorem unlogged_remove (h : w.Sweepable s links docs) (p : Project) {l : WebLink} (hl : l.Addressed)
    (hentries : ∀ entry ∈ w.tracker.remoteLinksOf s.id, leadsTo l.uri entry = false)
    (hdocs : ∀ doc ∈ docs, postsTo l.uri doc = false) :
    (w.after (s.removeLink p (.web l))).tracker.unlogged = w.tracker.unlogged := by
  have hremote := (RemoteLinks.removes h.holds.on h.permitted h.traceable hl h.list_eq).1
  have hunlogged := RemoteLinks.unlogged_remove h.holds.on h.permitted h.traceable hl h.list_eq hentries
  rw [Snapshot.removeLink, World.after_bind_ok _ hremote]
  exact ((h.holds.of_unlogged hunlogged).unlogged_removeLink p.visibilityRole hdocs).trans hunlogged

/-- No link that is listed has an address to which nothing leads. -/
theorem uri_ne (h : w.Sweepable s links docs) (p : Project) {uri : Url}
    (hentries : ∀ entry ∈ w.tracker.remoteLinksOf s.id, leadsTo uri entry = false)
    (hdocs : ∀ doc ∈ docs, postsTo uri doc = false) :
    (∀ l ∈ links, l.uri ≠ uri) ∧ (∀ l ∈ postedLinks docs, l.uri ≠ uri) ∧
      ∀ ls, w.result (s.links p) = .ok ls → ∀ l, .web l ∈ ls → l.uri ≠ uri := by
  have hremote : ∀ l ∈ links, l.uri ≠ uri := by
    intro l hl huri
    have hshows := RemoteLinks.shows_of_list h.holds.on h.permitted h.list_eq
    obtain ⟨entry, hentry, hread⟩ := source_of_mem hshows hl
    obtain ⟨hmem, hown⟩ := List.mem_filter.1 hentry
    have hleads := hentries entry hmem
    rw [leadsTo_of_read hown hread, decide_eq_false_iff_not] at hleads
    exact hleads huri
  have hposted : ∀ l ∈ postedLinks docs, l.uri ≠ uri := by
    intro l hl huri
    obtain ⟨doc, hdoc, hparse⟩ := List.mem_filterMap.1 hl
    have hposts := hdocs doc hdoc
    simp [postsTo, hparse, huri] at hposts
  refine ⟨hremote, hposted, fun ls hls l hl => ?_⟩
  obtain ⟨hnative, hcomments⟩ := s.parts_of_links w p hls
  have hunlogged := World.unlogged_after (RemoteLinks.mk s.path).reads_list w
  have hlinks := Except.ok.inj (hnative.symm.trans h.list_eq)
  have hdocs' := Except.ok.inj (hcomments.symm.trans ((h.holds.of_unlogged hunlogged).lists.listLinks p.visibilityRole))
  cases hstored : l.storedId with
  | some id => exact hremote l (hlinks ▸ List.mem_filterMap.2 ⟨_, hl, by simp [Link.native?, hstored]⟩)
  | none => exact hposted l (hdocs' ▸ List.mem_filterMap.2 ⟨_, hl, by simp [Link.posted?, hstored]⟩)

end World.Sweepable

/-- If removing a link that was put together or listed succeeds, it has removed exactly the own
entries and the comments that lead to the link's address, and kept the others in their order. No
link with the address is listed any more, in neither place, and removing the link again succeeds
and changes nothing but the log. -/
theorem removeLink_sweeps {p : Project} {s : Snapshot} {w : World} {l : WebLink}
    (hreachable : w.tracker.Reachable) (hpermitted : w.tracker.deniesRemoteLinks = false)
    (htraceable : Traceable (w.tracker.remoteLinksOf s.id)) (hl : l.Known) (hback : l.uri.ReadsBack)
    (hok : w.result (s.removeLink p (.web l)) = .ok ()) :
    let w' := w.after (s.removeLink p (.web l))
    w'.tracker.remoteLinksOf s.id = (w.tracker.remoteLinksOf s.id).filter (!leadsTo l.uri ·) ∧
      w'.tracker.commentsOf s.id = (w.tracker.commentsOf s.id).filter (!postsTo l.uri ·) ∧
      (∃ remote posted, w'.result (RemoteLinks.mk s.path).list = .ok remote ∧
        w'.result (s.commentStore p).listLinks = .ok posted ∧
        (∀ l' ∈ remote, l'.uri ≠ l.uri) ∧ ∀ l' ∈ posted, l'.uri ≠ l.uri) ∧
      (∀ ls, w'.result (s.links p) = .ok ls → ∀ l', .web l' ∈ ls → l'.uri ≠ l.uri) ∧
      w'.result (s.removeLink p (.web l)) = .ok () ∧
      (w'.after (s.removeLink p (.web l))).tracker.unlogged = w'.tracker.unlogged := by
  intro w'
  have haddressed := hl.addressed hback
  obtain ⟨links, h⟩ := World.Sweepable.of_remove hreachable hpermitted htraceable haddressed hok
  obtain ⟨-, hentries, rest, h'⟩ := h.removes p haddressed
  have hnoEntry : ∀ entry ∈ w'.tracker.remoteLinksOf s.id, leadsTo l.uri entry = false := by
    intro entry hentry
    rw [hentries] at hentry
    simpa using (List.mem_filter.1 hentry).2
  have hnoDoc : ∀ doc ∈ (w.tracker.commentsOf s.id).filter (!postsTo l.uri ·), postsTo l.uri doc = false := by
    intro doc hdoc
    simpa using (List.mem_filter.1 hdoc).2
  obtain ⟨hremote, hposted, hlinks⟩ := h'.uri_ne p hnoEntry hnoDoc
  exact ⟨hentries, h'.holds.comments_eq,
    ⟨rest, _, h'.list_eq, h'.holds.lists.listLinks p.visibilityRole, hremote, hposted⟩, hlinks,
    (h'.removes p haddressed).1, h'.unlogged_remove p haddressed hnoEntry hnoDoc⟩

/-- An entry of somebody else for the same address. -/
def Tracker.foreignEntry : Json :=
  .ofMembers [("globalId", .str "mirrors=7"),
    ("object", .ofMembers [("title", .str "Repository"), ("url", .str "git://example.org")])]

/-- A tracker with three entries for one address, one of them somebody else's, and two comments, one
of which stands for a link to the address. -/
def Tracker.cluttered : Tracker :=
  let t := (Tracker.untidy.addRemoteLink "X-1" foreignEntry).addRemoteLink "X-1" WebLink.untidyEntry
  ((t.addComment "X-1" "rk" "Seen on Linux").1.addComment "X-1" "rk" "Remote link: Mirror\nURL: GIT://example.org").1

theorem Tracker.reachable_cluttered : Tracker.cluttered.Reachable :=
  (reachable_ofIssue "X-1" "Open" []).step (.remoteLink _ "X-1" WebLink.untidyEntry)
    |>.step (.remoteLink _ "X-1" foreignEntry) |>.step (.remoteLink _ "X-1" WebLink.untidyEntry)
    |>.step (.comment _ "X-1" "rk" _) |>.step (.comment _ "X-1" "rk" _)

theorem Tracker.traceable_cluttered : Traceable (Tracker.cluttered.remoteLinksOf "X-1") := by
  have hentries : Tracker.cluttered.remoteLinksOf "X-1" =
      [WebLink.untidyEntry, Tracker.foreignEntry, WebLink.untidyEntry] := rfl
  have hforeign : isOwn Tracker.foreignEntry = false := by decide +kernel
  rw [hentries]
  refine traceable_of_describes fun entry hentry hown => ?_
  simp only [List.mem_cons, List.not_mem_nil, or_false] at hentry
  rcases hentry with rfl | rfl | rfl
  · exact ⟨_, describes_untidy⟩
  · rw [hforeign] at hown
    cases hown
  · exact ⟨_, describes_untidy⟩

/-- Both entries and the comment go, whatever their titles, and the rest stays. -/
theorem removeLink_sweeps_cluttered :
    let w : World := ⟨Tracker.cluttered, none⟩
    let s := Snapshot.ofIssue "X-1" "Open"
    let w' := w.after (s.removeLink .unrestricted (.web .mirror))
    w.tracker.Reachable ∧ w.tracker.deniesRemoteLinks = false ∧ Traceable (w.tracker.remoteLinksOf s.id) ∧
      WebLink.mirror.Known ∧ WebLink.mirror.uri.ReadsBack ∧
      w.result (s.removeLink .unrestricted (.web .mirror)) = .ok () ∧
      (w'.tracker.remoteLinksOf s.id).length = 1 ∧ (w'.tracker.commentsOf s.id).length = 1 := by
  intro w s w'
  have hok : w.result (s.removeLink .unrestricted (.web .mirror)) = .ok () := by decide +kernel
  have hknown : WebLink.mirror.Known := .built rfl
  obtain ⟨hentries, hcomments, -⟩ := removeLink_sweeps Tracker.reachable_cluttered rfl Tracker.traceable_cluttered
    hknown Url.readsBack_repository hok
  have hkept : ((Tracker.cluttered.remoteLinksOf "X-1").filter (!leadsTo .repository ·)).length = 1 := by
    decide +kernel
  have hread : ((Tracker.cluttered.commentsOf "X-1").filter (!postsTo .repository ·)).length = 1 := by
    decide +kernel
  exact ⟨Tracker.reachable_cluttered, rfl, Tracker.traceable_cluttered, hknown, Url.readsBack_repository, hok,
    (congrArg List.length hentries).trans hkept, (congrArg List.length hcomments).trans hread⟩

end IssueTracker
