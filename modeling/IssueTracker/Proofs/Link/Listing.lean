import IssueTracker.Proofs.Link.Entry
import IssueTracker.Proofs.Results
import IssueTracker.Proofs.World
import IssueTracker.Snapshot.Operations
/-!
# Listing links

The links of an issue are those of its remote links, those in its comments and those to other
issues, in this order. Only links that were read from remote links know an id they are stored
under, so that the three parts can be told apart.
-/

namespace IssueTracker

variable (w : World)

/-! ## The parts of a listing -/

/-- Reading entries reads each of them, up to the first that cannot be read. -/
theorem World.result_readEntries_eq (entries : List Json) :
    w.result (RemoteLinks.readEntries entries) =
      entries.mapM fun entry => (WebLink.EntryForm.read entry).map Prod.fst := by
  induction entries with
  | nil => rfl
  | cons entry rest ih =>
    rw [RemoteLinks.readEntries, World.result_bind, World.result_logged, World.after_logged, List.mapM_cons]
    simp only [World.result_bind, ih, World.result_pure]
    rfl

/-- Reading entries gives links exactly when every entry describes its link. -/
theorem World.result_readEntries {entries : List Json} {links : List WebLink} :
    w.result (RemoteLinks.readEntries entries) = .ok links ↔
      entries.map (fun entry => (WebLink.EntryForm.read entry).map Prod.fst) = links.map .ok := by
  rw [World.result_readEntries_eq, mapM_eq_ok]

/-- Links that were read from remote links are stored under an id. -/
theorem RemoteLinks.isSome_storedId {store : RemoteLinks} {links : List WebLink}
    (h : w.result store.list = .ok links) : ∀ l ∈ links, l.storedId.isSome = true := by
  rw [list, World.result_bind_eq_ok] at h
  obtain ⟨document, -, h⟩ := h
  rw [World.result_readEntries] at h
  intro l hl
  obtain ⟨entry, hentry, hread⟩ := source_of_mem h hl
  obtain ⟨text, hid⟩ := WebLink.EntryForm.isOwn_iff.1 (List.mem_filter.1 hentry).2
  cases hr : WebLink.EntryForm.read entry with
  | error e => simp [hr, Except.map] at hread
  | ok pair =>
    obtain ⟨l', warnings⟩ := pair
    obtain rfl : l' = l := by simpa [hr, Except.map] using hread
    rw [WebLink.EntryForm.storedId_of_own hid hr]
    rfl

/-- A comment that is no link is passed over. -/
theorem World.result_readLinks (comments : List Comment) :
    w.result (CommentStore.readLinks comments) =
      .ok (comments.filterMap fun comment => WebLink.CommentForm.parse? comment.body) := by
  induction comments with
  | nil => rfl
  | cons comment rest ih =>
    rw [CommentStore.readLinks, World.result_warnAll, World.result_bind_ok _ ih, World.result_pure]
    show Except.ok ((WebLink.CommentForm.parse? comment.body).toList ++ _) = _
    rw [List.filterMap_cons]
    cases WebLink.CommentForm.parse? comment.body <;> rfl

/-- A link in a comment is stored under no id. -/
theorem WebLink.CommentForm.storedId_of_parse? {body : String} {l : WebLink} (h : parse? body = some l) :
    l.storedId = none := by
  unfold parse? read readLines at h
  split at h
  · split at h
    · cases h
    · split at h
      · split at h
        · cases h
          rfl
        · cases h
      · cases h
  · cases h

/-- Whether a link leads to an issue. -/
def Link.isIssue : Link → Bool
  | .web _ => false
  | .issue _ _ => true

/-- The links to issues lead to issues. -/
theorem Snapshot.isIssue_of_issueLinks {entries : List Json} {ls : List Link}
    (h : w.result (issueLinks entries) = .ok ls) : ∀ l ∈ ls, l.isIssue = true := by
  induction entries generalizing w ls with
  | nil =>
    cases h
    exact fun l hl => absurd hl (by simp)
  | cons entry rest ih =>
    rw [issueLinks, World.result_bind_eq_ok] at h
    obtain ⟨l, hl, h⟩ := h
    rw [World.result_bind_eq_ok] at h
    obtain ⟨ls', hls', h⟩ := h
    cases h
    intro l' hl'
    rcases List.mem_cons.1 hl' with rfl | hl'
    · rw [fetchIssueLink, World.result_bind_eq_ok] at hl
      obtain ⟨⟨key, relationship⟩, -, hl⟩ := hl
      rw [World.result_bind_eq_ok] at hl
      obtain ⟨_ | target, -, hl⟩ := hl
      · cases hl
      · cases hl
        rfl
    · exact ih _ hls' l' hl'

variable (p : Project) (s : Snapshot)

/-- The links in comments and those to other issues can be listed. -/
structure World.ListsOthers (w : World) (p : Project) (s : Snapshot) (inComments : List WebLink)
    (issues : List Link) : Prop where
  comments : (w.after (RemoteLinks.mk s.path).list).result (s.commentStore p).listLinks = .ok inComments
  issues : ((w.after (RemoteLinks.mk s.path).list).after (s.commentStore p).listLinks).result
    (Snapshot.issueLinks (s.document.itemsAt (.ofKeys ["fields", "issuelinks"]))) = .ok issues

/-- Listing succeeds when all three parts do, and gives them one after the other. -/
theorem Snapshot.links_eq_ok {ls : List Link} :
    w.result (s.links p) = .ok ls ↔
      ∃ remote inComments issues, w.result (RemoteLinks.mk s.path).list = .ok remote ∧
        w.ListsOthers p s inComments issues ∧ ls = remote.map .web ++ inComments.map .web ++ issues := by
  simp only [links, World.result_bind_eq_ok, World.result_pure, Except.ok.injEq]
  constructor
  · rintro ⟨remote, hremote, inComments, hcomments, issues, hissues, rfl⟩
    exact ⟨remote, inComments, issues, hremote, ⟨hcomments, hissues⟩, rfl⟩
  · rintro ⟨remote, inComments, issues, hremote, hothers, rfl⟩
    exact ⟨remote, hremote, inComments, hothers.comments, issues, hothers.issues, rfl⟩

/-! ## Telling the parts apart -/

/-- A web link that was read from a remote link. -/
def Link.native? : Link → Option WebLink
  | .web l => if l.storedId.isSome then some l else none
  | .issue _ _ => none

/-- A web link that was read from a comment. -/
def Link.posted? : Link → Option WebLink
  | .web l => if l.storedId.isSome then none else some l
  | .issue _ _ => none

theorem Link.filterMap_web {f : Link → Option WebLink} {links : List WebLink}
    (h : ∀ l ∈ links, f (.web l) = some l) : (links.map Link.web).filterMap f = links := by
  induction links with
  | nil => rfl
  | cons l rest ih =>
    rw [List.map_cons, List.filterMap_cons_some (h l List.mem_cons_self),
      ih fun l' hl' => h l' (List.mem_cons_of_mem _ hl')]

theorem Link.filterMap_web_none {f : Link → Option WebLink} {links : List WebLink}
    (h : ∀ l ∈ links, f (.web l) = none) : (links.map Link.web).filterMap f = [] := by
  rw [List.filterMap_eq_nil_iff]
  intro l hl
  obtain ⟨l', hl', rfl⟩ := List.mem_map.1 hl
  exact h l' hl'

theorem Link.filterMap_issue {f : Link → Option WebLink}
    (hf : ∀ target relationship, f (.issue target relationship) = none) {links : List Link}
    (h : ∀ l ∈ links, l.isIssue = true) : links.filterMap f = [] := by
  rw [List.filterMap_eq_nil_iff]
  intro l hl
  cases l with
  | web l => exact absurd (h _ hl) (by simp [isIssue])
  | issue target relationship => exact hf target relationship

/-- The web links that are stored under an id are the remote links, and the others those in
comments. -/
theorem Snapshot.parts_of_links {ls : List Link} (h : w.result (s.links p) = .ok ls) :
    w.result (RemoteLinks.mk s.path).list = .ok (ls.filterMap Link.native?) ∧
      (w.after (RemoteLinks.mk s.path).list).result (s.commentStore p).listLinks =
        .ok (ls.filterMap Link.posted?) := by
  obtain ⟨remote, inComments, issues, hremote, ⟨hcomments, hissues⟩, rfl⟩ := (s.links_eq_ok w p).1 h
  have hissue := Snapshot.isIssue_of_issueLinks _ hissues
  have hstored := RemoteLinks.isSome_storedId w hremote
  have hposted : ∀ l ∈ inComments, l.storedId = none := by
    rw [CommentStore.listLinks, World.result_bind_eq_ok] at hcomments
    obtain ⟨comments, -, hread⟩ := hcomments
    rw [World.result_readLinks, Except.ok.injEq] at hread
    subst hread
    intro l hl
    obtain ⟨comment, -, hparse⟩ := List.mem_filterMap.1 hl
    exact WebLink.CommentForm.storedId_of_parse? hparse
  simp only [List.filterMap_append]
  rw [Link.filterMap_web (f := Link.native?) fun l hl => by simp [Link.native?, hstored l hl],
    Link.filterMap_web_none (f := Link.posted?) fun l hl => by simp [Link.posted?, hstored l hl],
    Link.filterMap_web_none (f := Link.native?) fun l hl => by simp [Link.native?, hposted l hl],
    Link.filterMap_web (f := Link.posted?) fun l hl => by simp [Link.posted?, hposted l hl],
    Link.filterMap_issue (f := Link.native?) (fun _ _ => rfl) hissue,
    Link.filterMap_issue (f := Link.posted?) (fun _ _ => rfl) hissue]
  simp only [List.append_nil, List.nil_append]
  exact ⟨hremote, hcomments⟩

/-! ## Calls -/

/-- What is done with the web links of an issue. -/
inductive LinkCall where
  | add (l : WebLink)
  | remove (l : WebLink)
  | list

namespace LinkCall

/-- The links that a call gives back. -/
def program (p : Project) (s : Snapshot) : LinkCall → Program (List Link)
  | add l => do
    s.addLink p (.web l)
    return []
  | remove l => do
    s.removeLink p (.web l)
    return []
  | list => s.links p

/-- The link that is added or removed. -/
def link? : LinkCall → Option WebLink
  | add l => some l
  | remove l => some l
  | list => none

end LinkCall

/-! ## A web link -/

/-- The address of a repository. -/
def Url.repository : Url := ⟨"git".toList, some (.ofHost "example.org".toList), [], none, none⟩

/-- A new link to it. -/
def WebLink.mirror : WebLink := .ofUri .repository "Mirror"

theorem Url.readsBack_repository : Url.repository.ReadsBack := by decide +kernel

end IssueTracker
