import IssueTracker.Proofs.Link.Remote
/-!
# Links among the remote links

In a project without restriction the web links of an issue are kept among its remote links.
Whatever is added, removed and listed, they are an ordered map: adding a link puts it under its
id, and removing one drops every link with its address.
-/

namespace IssueTracker

open WebLink.EntryForm (isOwn)

/-! ## Shelves kept by a tracker -/

/-- The remote links of a snapshot's issue can be seen, and amount to a shelf. -/
structure World.Keeps (w : World) (s : Snapshot) (shelf : Shelf) : Prop where
  on : s.On w.tracker
  permitted : w.tracker.deniesRemoteLinks = false
  kept : WellKept (w.tracker.remoteLinksOf s.id)
  held_eq : kept.held = shelf.held
  others_eq : (w.tracker.remoteLinksOf s.id).filter (!isOwn ·) = shelf.others
  number_eq : w.tracker.nextRemoteLinkId = shelf.nextNumber

namespace World.Keeps

variable {w w' : World} {s : Snapshot} {shelf : Shelf} {l : WebLink}

/-- Comments have no part in it. -/
theorem of_butComments (h : w.Keeps s shelf) (heq : w'.tracker.butComments = w.tracker.butComments) :
    w'.Keeps s shelf := by
  have hissues : w'.tracker.issues = w.tracker.issues := (congrArg Tracker.issues heq :)
  have hlinks := Tracker.remoteLinksOf_of_butComments heq s.id
  refine ⟨⟨h.on.slashFree, hissues ▸ h.on.known⟩, ?_, hlinks ▸ h.kept, ?_, ?_, ?_⟩
  · exact (Tracker.deniesRemoteLinks_of_butComments heq).trans h.permitted
  · refine Eq.trans (OrderedMap.ext ?_) h.held_eq
    exact congrArg (List.filterMap Held.ofEntry?) hlinks
  · exact (congrArg (List.filter (!isOwn ·)) hlinks).trans h.others_eq
  · exact (congrArg Tracker.nextRemoteLinkId heq :).trans h.number_eq

theorem of_unlogged (h : w.Keeps s shelf) (heq : w'.tracker.unlogged = w.tracker.unlogged) :
    w'.Keeps s shelf :=
  h.of_butComments (Tracker.butComments_of_unlogged heq)

theorem links_eq (h : w.Keeps s shelf) : h.kept.links = shelf.links := by
  rw [WellKept.links, h.held_eq]
  rfl

/-- Listing succeeds with the links of the shelf. -/
theorem result_list (h : w.Keeps s shelf) : w.result (RemoteLinks.mk s.path).list = .ok shelf.links := by
  rw [RemoteLinks.list_eq_ok h.on, h.permitted, ← h.links_eq]
  exact h.kept.shows

/-- Requests about remote links change nothing else. -/
theorem of_butRemoteLinks (h : w.Keeps s shelf) (hbut : w'.tracker.butRemoteLinks = w.tracker.butRemoteLinks)
    {entries : List Json} (hentries : w'.tracker.remoteLinksOf s.id = entries) (hkept : WellKept entries)
    {shelf' : Shelf} (hheld : hkept.held = shelf'.held) (hothers : entries.filter (!isOwn ·) = shelf'.others)
    (hnumber : w'.tracker.nextRemoteLinkId = shelf'.nextNumber) : w'.Keeps s shelf' := by
  subst hentries
  exact ⟨h.on.of_butRemoteLinks hbut, (Tracker.deniesRemoteLinks_of_butRemoteLinks hbut).trans h.permitted, hkept,
    hheld, hothers, hnumber⟩

/-- Adding a link succeeds, and puts it under its id. -/
theorem add (h : w.Keeps s shelf) (hl : l.Keepable) :
    w.result ((RemoteLinks.mk s.path).add l) = .ok () ∧
      (w.after ((RemoteLinks.mk s.path).add l)).Keeps s (shelf.add l) := by
  obtain ⟨hresult, hbut, hentries, hnumber⟩ := RemoteLinks.adds h.on l
  refine ⟨hresult, h.of_butRemoteLinks hbut hentries (h.kept.put hl _) ?_ ?_ ?_⟩
  · rw [WellKept.held_put hl, Shelf.add, ← h.held_eq, ← h.number_eq]
  · exact (others_putEntries hl _ _).trans h.others_eq
  · rw [hnumber, Shelf.add, ← h.held_eq, ← h.number_eq]
    simp only [h.kept.mem_keys hl]

/-- Removing a link succeeds, and drops the links with its address. -/
theorem remove (h : w.Keeps s shelf) (hl : l.Keepable) :
    w.result ((RemoteLinks.mk s.path).remove l) = .ok () ∧
      (w.after ((RemoteLinks.mk s.path).remove l)).Keeps s (shelf.remove l) := by
  obtain ⟨hresult, hbut, hentries, hnumber⟩ := RemoteLinks.removes_ids h.on h.result_list l
  -- The links that were listed are those of the entries, which is what the ids to remove go by.
  rw [← h.links_eq] at hentries
  refine ⟨hresult, h.of_butRemoteLinks hbut hentries (h.kept.without _) ?_ ?_ (hnumber.trans h.number_eq)⟩
  · rw [Shelf.remove, ← h.held_eq, ← h.kept.held_remove hl]
  · exact (h.kept.others_remove hl).trans h.others_eq

theorem addLink {p : Project} (hp : p.visibilityRole = none) (h : w.Keeps s shelf) (hl : l.Keepable) :
    w.result (s.addLink p (.web l)) = .ok () ∧ (w.after (s.addLink p (.web l))).Keeps s (shelf.add l) := by
  rw [s.addLink_unrestricted hp]
  exact h.add hl

/-- Whatever comes of the comments, removing a link removes it from the remote links. -/
theorem removeLink (p : Project) (h : w.Keeps s shelf) (hl : l.Keepable) :
    (w.after (s.removeLink p (.web l))).Keeps s (shelf.remove l) := by
  obtain ⟨hresult, h'⟩ := h.remove hl
  rw [Snapshot.removeLink, World.after_bind_ok _ hresult]
  apply h'.of_butComments
  exact World.after_keeps Tracker.butComments s.butComments_respond
    (CommentStore.sends_removeLink h.on.slashFree p.visibilityRole l) _

theorem links (p : Project) (h : w.Keeps s shelf) : (w.after (s.links p)).Keeps s shelf :=
  h.of_unlogged (World.unlogged_after (s.reads_links p) w)

end World.Keeps

/-! ## Runs -/

/-- What a call makes of a shelf. -/
def Shelf.call (shelf : Shelf) : LinkCall → Shelf
  | .add l => shelf.add l
  | .remove l => shelf.remove l
  | .list => shelf

/-- A link that was put together, not read from an entry. -/
structure WebLink.Built (l : WebLink) : Prop where
  unstored : l.storedId = none
  readsBack : l.ReadsBack

/-- The remote links among those that a program gives back. -/
def World.natives (w : World) (p : Program (List Link)) : List WebLink :=
  match w.result p with
  | .ok ls => ls.filterMap Link.native?
  | .error _ => []

/-- Calls in turn, with the remote links they have given back. A link in a call was built, or
given back by a call before. -/
inductive LinkRun (p : Project) (s : Snapshot) (w : World) : List LinkCall → List WebLink → World → Prop
  | start : LinkRun p s w [] [] w
  | call {calls : List LinkCall} {known : List WebLink} {w' : World} {c : LinkCall}
      (run : LinkRun p s w calls known w') (allowed : ∀ l, c.link? = some l → l.Built ∨ l ∈ known) :
      LinkRun p s w (calls ++ [c]) (known ++ w'.natives (c.program p s)) (w'.after (c.program p s))

section Runs

variable {p : Project} {s : Snapshot} {w w' : World} {shelf : Shelf} {calls : List LinkCall} {known : List WebLink}

theorem WebLink.Built.keepable {l : WebLink} (h : l.Built) : l.Keepable :=
  ⟨h.readsBack, h.readsBack.addressed h.unstored⟩

/-- A link on a kept shelf can be kept, and is stored under its id. -/
theorem World.Keeps.keepable (h : w.Keeps s shelf) {l : WebLink} (hl : l ∈ shelf.links) :
    l.Keepable ∧ ∃ number, shelf.held.get? l.globalId = some ⟨number, l⟩ ∧ l.storedId.isSome = true := by
  rw [Shelf.links, ← h.held_eq] at hl
  obtain ⟨x, hx, rfl⟩ := List.mem_map.1 hl
  obtain ⟨⟨id, y⟩, hmem, rfl⟩ := List.mem_map.1 hx
  obtain ⟨entry, -, hof⟩ := List.mem_filterMap.1 hmem
  have hid := (Held.ofEntry?_eq_some hof).2.2.1
  refine ⟨h.kept.keepable hmem, y.number, ?_, by simp [hid]⟩
  have hkey : y.link.globalId = id := by simp [WebLink.globalId, hid]
  rw [hkey, ← h.held_eq]
  exact h.kept.held.get?_of_mem hmem

theorem World.Keeps.natives_links (h : w.Keeps s shelf) {ls : List Link} (hls : w.result (s.links p) = .ok ls) :
    ls.filterMap Link.native? = shelf.links :=
  Except.ok.inj ((s.parts_of_links w p hls).1.symm.trans h.result_list)

/-- What one call does. -/
theorem World.Keeps.call (hp : p.visibilityRole = none) (h : w.Keeps s shelf) {c : LinkCall}
    (hc : ∀ l, c.link? = some l → l.Keepable) : (w.after (c.program p s)).Keeps s (shelf.call c) := by
  cases c with
  | add l =>
    rw [LinkCall.program, World.after_bind_pure]
    exact (h.addLink hp (hc l rfl)).2
  | remove l =>
    rw [LinkCall.program, World.after_bind_pure]
    exact h.removeLink p (hc l rfl)
  | list => exact h.links p

/-- What comes back from a call can be kept. -/
theorem World.Keeps.natives (h : w.Keeps s shelf) (c : LinkCall) {l : WebLink}
    (hl : l ∈ w.natives (c.program p s)) : l.Keepable := by
  unfold World.natives at hl
  split at hl
  · rename_i ls hls
    cases c with
    | list =>
      rw [h.natives_links hls] at hl
      exact (h.keepable hl).1
    | add l' =>
      obtain ⟨_, -, hnone⟩ := (w.result_bind_eq_ok).1 hls
      cases hnone
      cases hl
    | remove l' =>
      obtain ⟨_, -, hnone⟩ := (w.result_bind_eq_ok).1 hls
      cases hnone
      cases hl
  · cases hl

theorem LinkRun.keeps (hp : p.visibilityRole = none) (h : w.Keeps s shelf) (hrun : LinkRun p s w calls known w') :
    w'.Keeps s (calls.foldl Shelf.call shelf) ∧ ∀ l ∈ known, l.Keepable := by
  -- Links in a call may come from an earlier one, so what was given back is followed along.
  induction hrun with
  | start => exact ⟨h, fun l hl => absurd hl (by simp)⟩
  | @call calls known w' c _ allowed ih =>
    obtain ⟨hkeeps, hknown⟩ := ih
    rw [List.foldl_append]
    constructor
    · apply hkeeps.call hp
      intro l hl
      rcases allowed l hl with hbuilt | hmem
      · exact hbuilt.keepable
      · exact hknown l hmem
    · intro l hl
      rcases List.mem_append.1 hl with hl | hl
      · exact hknown l hl
      · exact hkeeps.natives c hl

end Runs

/-- The shelf that the remote links of an issue amount to. -/
def Tracker.shelf (t : Tracker) (key : String) (h : WellKept (t.remoteLinksOf key)) : Shelf where
  held := h.held
  others := (t.remoteLinksOf key).filter (!isOwn ·)
  nextNumber := t.nextRemoteLinkId

section OrderedMap

variable {p : Project} {s : Snapshot} {w w' : World} {calls : List LinkCall} {known : List WebLink}

/-- In a project without restriction, the remote links after any run are the shelf that the calls
make of the first one, listed in its order. A further link is put under its id, in place of the
one there, and listed under it; adding it again, or adding what is listed, changes nothing.
Removing a link drops exactly the links with its address. -/
theorem remoteLinks_refine_orderedMap (hp : p.visibilityRole = none) (hs : s.On w.tracker)
    (hpermitted : w.tracker.deniesRemoteLinks = false) (hkept : WellKept (w.tracker.remoteLinksOf s.id))
    (hrun : LinkRun p s w calls known w') :
    let shelf := calls.foldl Shelf.call (w.tracker.shelf s.id hkept)
    w'.Keeps s shelf ∧
      w'.result (RemoteLinks.mk s.path).list = .ok shelf.links ∧
      (∀ inComments issues, w'.ListsOthers p s inComments issues →
        w'.result (s.links p) = .ok (shelf.links.map .web ++ inComments.map .web ++ issues)) ∧
      (∀ ls, w'.result (s.links p) = .ok ls → ls.filterMap Link.native? = shelf.links) ∧
      (∀ l, l.Built ∨ l ∈ known →
        w'.result (s.addLink p (.web l)) = .ok () ∧
        (w'.after (s.addLink p (.web l))).Keeps s (shelf.add l) ∧
        (∃ shown ∈ (shelf.add l).links, shown.globalId = l.globalId ∧ (shown == l) = true) ∧
        (shelf.add l).add l = shelf.add l ∧
        (w'.after (s.removeLink p (.web l))).Keeps s (shelf.remove l) ∧
        (shelf.remove l).links = shelf.links.filter fun link => link.uri ≠ l.uri) ∧
      ∀ l ∈ shelf.links, shelf.add l = shelf := by
  intro shelf
  have hstart : w.Keeps s (w.tracker.shelf s.id hkept) := ⟨hs, hpermitted, hkept, rfl, rfl, rfl⟩
  obtain ⟨h, hknown⟩ := hrun.keeps hp hstart
  refine ⟨h, h.result_list, ?_, fun ls hls => h.natives_links hls, ?_, ?_⟩
  · intro inComments issues hothers
    exact (s.links_eq_ok w' p).2 ⟨_, _, _, h.result_list, hothers, rfl⟩
  · intro l hl
    have hkeepable : l.Keepable := by
      rcases hl with hbuilt | hmem
      · exact hbuilt.keepable
      · exact hknown l hmem
    obtain ⟨hresult, hadd⟩ := h.addLink hp hkeepable
    refine ⟨hresult, hadd, ⟨l.stored, ?_, rfl, l.stored_beq⟩, shelf.add_add l, h.removeLink p hkeepable,
      shelf.links_remove l⟩
    exact (shelf.add l).mem_links (shelf.get?_add l)
  · intro l hl
    obtain ⟨-, number, hget, hstored⟩ := h.keepable hl
    exact shelf.add_of_get? l hget hstored

/-- A project that restricts nothing. -/
def Project.unrestricted : Project := ⟨.repository, none, .standard⟩

/-- A link whose id spells the address in another way. -/
def WebLink.untidy : WebLink :=
  { WebLink.ofUri .repository "Repository" with storedId := some "skaralink=GIT://example.org" }

/-- The entry of that link. -/
def WebLink.untidyEntry : Json :=
  .ofMembers [("globalId", .str "skaralink=GIT://example.org"),
    ("object", .ofMembers [("title", .str "Repository"), ("url", .str "GIT://example.org")])]

theorem WebLink.built_mirror : WebLink.mirror.Built := by
  refine ⟨rfl, Url.readsBack_repository, ?_, ?_⟩
  · rintro u ⟨⟩
  · rintro u ⟨⟩

theorem describes_untidy : Describes WebLink.untidyEntry WebLink.untidy := by
  refine ⟨⟨[], by rfl⟩, ⟨Url.readsBack_repository, ?_, ?_⟩, "GIT://example.org", by decide, by decide +kernel⟩
  · rintro u ⟨⟩
  · rintro u ⟨⟩

/-- A tracker with that entry. -/
def Tracker.untidy : Tracker := (Tracker.ofIssue "X-1" "Open" []).addRemoteLink "X-1" WebLink.untidyEntry

theorem Tracker.wellKept_untidy : WellKept (Tracker.untidy.remoteLinksOf "X-1") := by
  have hentries : Tracker.untidy.remoteLinksOf "X-1" = [WebLink.untidyEntry] := rfl
  rw [hentries]
  refine ⟨by simp, ?_⟩
  intro entry hentry _
  obtain rfl := List.mem_singleton.1 hentry
  exact ⟨_, describes_untidy⟩

/-- Removing the one spelling removes the other. -/
theorem remoteLinks_remove_both_spellings :
    let w : World := ⟨Tracker.untidy, none⟩
    let s := Snapshot.ofIssue "X-1" "Open"
    Project.unrestricted.visibilityRole = none ∧ s.On w.tracker ∧ w.tracker.deniesRemoteLinks = false ∧
      WellKept (w.tracker.remoteLinksOf s.id) ∧
      ∃ known w', LinkRun .unrestricted s w [.add .mirror, .list, .remove .untidy] known w' ∧
        w'.result (RemoteLinks.mk s.path).list = .ok [] := by
  intro w s
  have hon : s.On w.tracker := ⟨by decide, by decide +kernel⟩
  have hadd := LinkRun.call (p := .unrestricted) (s := s) (w := w) (c := .add .mirror) .start
    fun l hl => by cases hl; exact .inl WebLink.built_mirror
  have hlist := LinkRun.call (c := .list) hadd fun l hl => by cases hl
  have hlisted : (w.after (LinkCall.program .unrestricted s (.add .mirror))).natives
      (LinkCall.program .unrestricted s .list) = [.untidy, WebLink.mirror.stored] := by
    decide +kernel
  have hrun := LinkRun.call (c := .remove .untidy) hlist fun l hl => by
    cases hl
    exact .inr (List.mem_append_right _ (hlisted ▸ List.mem_cons_self))
  refine ⟨rfl, hon, rfl, Tracker.wellKept_untidy, _, _, hrun, ?_⟩
  have hshelf := (remoteLinks_refine_orderedMap rfl hon rfl Tracker.wellKept_untidy hrun).2.1
  rw [hshelf]
  decide +kernel

end OrderedMap

end IssueTracker
