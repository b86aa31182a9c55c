import IssueTracker.Proofs.Link.Entries
import IssueTracker.Proofs.Link.Listing
import IssueTracker.Proofs.Sends
/-!
# The routes of remote links

What posting and deleting remote links makes of the entries of an issue. Deleting succeeds for
ids that are gone already, so that removing never fails where listing does not.
-/

namespace IssueTracker

open WebLink.EntryForm (isOwn read render)
open Tracker (globalIdOf)

/-! ## Posting and deleting -/

namespace Tracker

variable (t : Tracker) (key : String)

@[simp] theorem remoteLinksOf_putRemoteLinks (entries : List Json) :
    (t.putRemoteLinks key entries).remoteLinksOf key = entries := by
  simp [remoteLinksOf, putRemoteLinks]

/-- What becomes of the remote links of an issue when a link's entry is posted. -/
theorem upsertRemoteLink_eq (l : WebLink) : ∃ answer,
    t.upsertRemoteLink key (render l) =
      ({ t.putRemoteLinks key (putEntries l (.num (.int t.nextRemoteLinkId)) (t.remoteLinksOf key)) with
        nextRemoteLinkId :=
          if (t.remoteLinksOf key).any (globalIdOf · == .str l.globalId) then t.nextRemoteLinkId
          else t.nextRemoteLinkId + 1 }, .ok answer) := by
  have hid : globalIdOf (render l) = .str l.globalId :=
    WebLink.EntryForm.globalIdOf_of_get? (WebLink.EntryForm.get?_render_globalId l)
  unfold upsertRemoteLink
  rw [hid]
  dsimp only
  split
  · rename_i i hi
    have hany : (t.remoteLinksOf key).any (globalIdOf · == .str l.globalId) = true := by
      obtain ⟨h, hp, -⟩ := List.findIdx?_eq_some_iff_getElem.1 hi
      exact List.any_eq_true.2 ⟨_, List.getElem_mem h, hp⟩
    rw [WebLink.EntryForm.set?_render, if_pos hany, putEntries, ← set_of_findIdx? _ _ hi]
    exact ⟨_, rfl⟩
  · rename_i hnone
    have hany : ¬ (t.remoteLinksOf key).any (globalIdOf · == .str l.globalId) = true := by
      intro h
      obtain ⟨entry, hentry, hp⟩ := List.any_eq_true.1 h
      simp [List.findIdx?_eq_none_iff.1 hnone entry hentry] at hp
    have hnumber : ((t.nextRemoteLinkId + 1 : Nat) : Int) - 1 = t.nextRemoteLinkId := by omega
    rw [hnumber, WebLink.EntryForm.set?_render, if_neg hany, putEntries, ← append_of_findIdx? _ _ hnone]
    exact ⟨_, rfl⟩

/-- What becomes of the remote links of an issue when an id is deleted, whether it is there or not. -/
theorem deleteRemoteLinks_eq (id : String) :
    (t.deleteRemoteLinks key id).1.remoteLinksOf key = withoutIds [id] (t.remoteLinksOf key) ∧
      (t.deleteRemoteLinks key id).1.nextRemoteLinkId = t.nextRemoteLinkId := by
  have hkept : ((t.remoteLinksOf key).filter fun entry => globalIdOf entry != .str id) =
      withoutIds [id] (t.remoteLinksOf key) := by
    simp [withoutIds, bne]
  unfold deleteRemoteLinks
  dsimp only
  rw [hkept]
  split
  · rename_i hlength
    refine ⟨?_, rfl⟩
    exact (List.filter_sublist.eq_of_length hlength).symm
  · exact ⟨remoteLinksOf_putRemoteLinks t key _, rfl⟩

/-- Where no entry has the id, nothing happens. -/
theorem deleteRemoteLinks_absent {id : String} (h : withoutIds [id] (t.remoteLinksOf key) = t.remoteLinksOf key) :
    (t.deleteRemoteLinks key id).1 = t := by
  have hkept : ((t.remoteLinksOf key).filter fun entry => globalIdOf entry != .str id) = t.remoteLinksOf key := by
    simpa [withoutIds, bne] using h
  unfold deleteRemoteLinks
  dsimp only
  rw [hkept, if_pos rfl]

end Tracker

/-! ## Adding links and deleting ids -/

namespace RemoteLinks

variable {w : World} {s : Snapshot} (hon : s.On w.tracker)
include hon

/-- Adding a link succeeds, and puts its entry among the others. -/
theorem adds (l : WebLink) :
    let w' := w.after ((RemoteLinks.mk s.path).add l)
    let entries := w.tracker.remoteLinksOf s.id
    w.result ((RemoteLinks.mk s.path).add l) = .ok () ∧
      w'.tracker.butRemoteLinks = w.tracker.butRemoteLinks ∧
      w'.tracker.remoteLinksOf s.id = putEntries l (.num (.int w.tracker.nextRemoteLinkId)) entries ∧
      w'.tracker.nextRemoteLinkId =
        if entries.any (globalIdOf · == .str l.globalId) then w.tracker.nextRemoteLinkId
        else w.tracker.nextRemoteLinkId + 1 := by
  intro w' entries
  let r : Request := .post (RemoteLinks.mk s.path).path (render l)
  have hbut : w'.tracker.butRemoteLinks = w.tracker.butRemoteLinks :=
    World.after_keeps Tracker.butRemoteLinks s.butRemoteLinks_respond (RemoteLinks.sends_add hon.slashFree l) w
  obtain ⟨answer, hupsert⟩ := (w.tracker.noted r).upsertRemoteLink_eq s.id l
  have hrespond : w.tracker.respond r = (w.tracker.noted r).upsertRemoteLink s.id (render l) := by
    rw [s.respond_remoteLinks hon.slashFree w.tracker rfl]
    unfold Tracker.remoteLinksRoute
    simp [hon.known]
    rfl
  have hafter : w'.tracker = ((w.tracker.noted r).upsertRemoteLink s.id (render l)).1 := congrArg Prod.fst hrespond
  refine ⟨?_, hbut, ?_, ?_⟩
  · rw [add, World.result_perform, hrespond, hupsert]
    rfl
  · rw [hafter, hupsert]
    exact Tracker.remoteLinksOf_putRemoteLinks _ _ _
  · rw [hafter, hupsert]
    rfl

/-- Deleting an id succeeds, and leaves it to the tracker to find the entries with it. -/
theorem after_deleteId (id : String) :
    w.result ((RemoteLinks.mk s.path).deleteId id) = .ok () ∧ ∃ t : Tracker, t.unlogged = w.tracker.unlogged ∧
      (w.after ((RemoteLinks.mk s.path).deleteId id)).tracker = (t.deleteRemoteLinks s.id id).1 := by
  let r : Request :=
    ((Request.delete (RemoteLinks.mk s.path).path).param "globalId" id).onStatus 404 CommentStore.alreadyDeleted
  have hrespond : w.tracker.respond r = (w.tracker.noted r).deleteRemoteLinks s.id id := by
    rw [s.respond_remoteLinks hon.slashFree w.tracker rfl]
    unfold Tracker.remoteLinksRoute
    simp [hon.known]
    rfl
  rw [deleteId, World.result_perform, World.after_perform, World.answered, hrespond]
  refine ⟨?_, w.tracker.noted r, rfl, rfl⟩
  unfold Tracker.deleteRemoteLinks
  dsimp only
  split <;> rfl

/-- Deleting an id succeeds, whether there is an entry with it or not. -/
theorem deletes_id (id : String) :
    w.result ((RemoteLinks.mk s.path).deleteId id) = .ok () ∧
      (w.after ((RemoteLinks.mk s.path).deleteId id)).tracker.remoteLinksOf s.id =
        withoutIds [id] (w.tracker.remoteLinksOf s.id) ∧
      (w.after ((RemoteLinks.mk s.path).deleteId id)).tracker.nextRemoteLinkId = w.tracker.nextRemoteLinkId := by
  obtain ⟨hresult, t, hunlogged, hafter⟩ := after_deleteId hon id
  obtain ⟨hentries, hnumber⟩ := t.deleteRemoteLinks_eq s.id id
  rw [hafter, hentries, hnumber, Tracker.remoteLinksOf_of_unlogged hunlogged]
  exact ⟨hresult, rfl, Tracker.nextRemoteLinkId_of_unlogged hunlogged⟩

theorem deletes_ids (ids : List String) :
    w.result ((RemoteLinks.mk s.path).deleteIds ids) = .ok () ∧
      (w.after ((RemoteLinks.mk s.path).deleteIds ids)).tracker.remoteLinksOf s.id =
        withoutIds ids (w.tracker.remoteLinksOf s.id) ∧
      (w.after ((RemoteLinks.mk s.path).deleteIds ids)).tracker.nextRemoteLinkId = w.tracker.nextRemoteLinkId := by
  induction ids generalizing w with
  | nil => simp [deleteIds]
  | cons id rest ih =>
    obtain ⟨hresult, hentries, hnumber⟩ := deletes_id hon id
    have hbut : (w.after ((RemoteLinks.mk s.path).deleteId id)).tracker.butRemoteLinks = w.tracker.butRemoteLinks :=
      World.after_keeps Tracker.butRemoteLinks s.butRemoteLinks_respond (sends_deleteId hon.slashFree id) w
    obtain ⟨hresult', hentries', hnumber'⟩ := ih (hon.of_butRemoteLinks hbut)
    rw [deleteIds, World.result_bind_ok _ hresult, World.after_bind_ok _ hresult, withoutIds_cons, ← hentries,
      ← hnumber]
    exact ⟨hresult', hentries', hnumber'⟩

/-- Removing a link deletes the ids that its listing gives. -/
theorem removes_ids {links : List WebLink} (hlist : w.result (RemoteLinks.mk s.path).list = .ok links) (l : WebLink) :
    let w' := w.after ((RemoteLinks.mk s.path).remove l)
    w.result ((RemoteLinks.mk s.path).remove l) = .ok () ∧
      w'.tracker.butRemoteLinks = w.tracker.butRemoteLinks ∧
      w'.tracker.remoteLinksOf s.id = withoutIds (idsToRemove l links) (w.tracker.remoteLinksOf s.id) ∧
      w'.tracker.nextRemoteLinkId = w.tracker.nextRemoteLinkId := by
  intro w'
  have hunlogged := World.unlogged_after (RemoteLinks.mk s.path).reads_list w
  obtain ⟨hresult, hentries, hnumber⟩ := deletes_ids (hon.of_unlogged hunlogged) (idsToRemove l links)
  have hbut : w'.tracker.butRemoteLinks = w.tracker.butRemoteLinks :=
    World.after_keeps Tracker.butRemoteLinks s.butRemoteLinks_respond (sends_remove hon.slashFree l) w
  have hw' : w' =
      (w.after (RemoteLinks.mk s.path).list).after ((RemoteLinks.mk s.path).deleteIds (idsToRemove l links)) :=
    World.after_bind_ok _ hlist _
  rw [hw'] at hbut ⊢
  rw [Tracker.remoteLinksOf_of_unlogged hunlogged] at hentries
  exact ⟨(World.result_bind_ok _ hlist _).trans hresult, hbut, hentries,
    hnumber.trans (Tracker.nextRemoteLinkId_of_unlogged hunlogged)⟩

/-! ## Listing -/

/-- Whoever may not see remote links is shown none. -/
theorem result_document :
    w.result (.execute ((Request.get (RemoteLinks.mk s.path).path).onStatus 401 (.arr []))) =
      .ok (.arr (if w.tracker.deniesRemoteLinks then [] else w.tracker.remoteLinksOf s.id)) := by
  rw [World.result_execute, s.respond_remoteLinks hon.slashFree w.tracker rfl, Tracker.remoteLinksRoute,
    if_neg (by simp [hon.known])]
  by_cases hdenies : w.tracker.deniesRemoteLinks = true
  · simp [hdenies, Request.get, Request.onStatus, Request.settle, Request.tolerate?]
  · simp [hdenies, Request.get, Request.onStatus, Request.settle]

/-- Listing reads the own ones among the entries that are shown. -/
theorem result_list_eq : w.result (RemoteLinks.mk s.path).list =
    ((if w.tracker.deniesRemoteLinks then [] else w.tracker.remoteLinksOf s.id).filter isOwn).mapM
      fun entry => (read entry).map Prod.fst := by
  rw [list, World.result_bind_ok _ (result_document hon), World.result_readEntries_eq]
  rfl

theorem list_eq_ok {links : List WebLink} :
    w.result (RemoteLinks.mk s.path).list = .ok links ↔
      ((if w.tracker.deniesRemoteLinks then [] else w.tracker.remoteLinksOf s.id).filter isOwn).map
        (fun entry => (read entry).map Prod.fst) = links.map .ok := by
  rw [result_list_eq hon, mapM_eq_ok]

/-- Where remote links may be seen, the links that the own ones describe are listed. -/
theorem shows_of_list (hpermitted : w.tracker.deniesRemoteLinks = false) {links : List WebLink}
    (hlist : w.result (RemoteLinks.mk s.path).list = .ok links) : Shows (w.tracker.remoteLinksOf s.id) links := by
  have h := (list_eq_ok hon).1 hlist
  rw [hpermitted] at h
  exact h

end RemoteLinks

/-- In a project without restriction a web link is added to the remote links. -/
theorem Snapshot.addLink_unrestricted {p : Project} (hp : p.visibilityRole = none) (s : Snapshot) (l : WebLink) :
    s.addLink p (.web l) = (RemoteLinks.mk s.path).add l := by
  simp [addLink, addWebLink, Project.isRestricted, hp]

/-- Remote links cannot be seen, or all of this library's own describe links. -/
def World.CanList (w : World) (s : Snapshot) : Prop :=
  w.tracker.deniesRemoteLinks = true ∨
    ∀ entry ∈ w.tracker.remoteLinksOf s.id, isOwn entry → ∃ l warnings, read entry = .ok (l, warnings)

namespace World.CanList

variable {w w' : World} {s : Snapshot} {l : WebLink}

theorem of_butComments (h : w.CanList s) (heq : w'.tracker.butComments = w.tracker.butComments) : w'.CanList s := by
  unfold CanList
  rw [Tracker.deniesRemoteLinks_of_butComments heq, Tracker.remoteLinksOf_of_butComments heq]
  exact h

theorem result_list (h : w.CanList s) (hon : s.On w.tracker) :
    ∃ links, w.result (RemoteLinks.mk s.path).list = .ok links := by
  have hreads : ∀ entry ∈ (if w.tracker.deniesRemoteLinks then [] else w.tracker.remoteLinksOf s.id).filter isOwn,
      ∃ l, (read entry).map Prod.fst = .ok l := by
    intro entry hentry
    obtain ⟨hmem, hown⟩ := List.mem_filter.1 hentry
    rcases h with hdenies | hreads
    · simp [hdenies] at hmem
    · split at hmem
      · cases hmem
      · obtain ⟨l, warnings, hread⟩ := hreads entry hmem hown
        exact ⟨l, by rw [hread]; rfl⟩
  simp only [RemoteLinks.list_eq_ok hon]
  exact exists_map_ok hreads

/-- Removing a link succeeds, and what is left can be listed. -/
theorem remove (h : w.CanList s) (hon : s.On w.tracker) :
    w.result ((RemoteLinks.mk s.path).remove l) = .ok () ∧
      (w.after ((RemoteLinks.mk s.path).remove l)).CanList s := by
  obtain ⟨remote, hlist⟩ := h.result_list hon
  obtain ⟨hresult, hbut, hentries, -⟩ := RemoteLinks.removes_ids hon hlist l
  refine ⟨hresult, ?_⟩
  rcases h with hdenies | hreads
  · exact .inl ((Tracker.deniesRemoteLinks_of_butRemoteLinks hbut).trans hdenies)
  · refine .inr fun entry hentry hown => hreads entry ?_ hown
    rw [hentries] at hentry
    exact (List.mem_filter.1 hentry).1

end World.CanList

end IssueTracker
