import IssueTracker.Proofs.Link.Native
import IssueTracker.Proofs.Tracker.Reachable
/-!
# Links that are stored already

A tracker updates the entry with the id of a link that is added, and knows nothing of addresses.
So a link takes the place of a stored one with its address only where that one has the id which
the address gives. Where the address is stored under an id that spells it in another way, there
are two entries with it afterwards.
-/

namespace IssueTracker

open WebLink.EntryForm (isOwn read)
open Tracker (globalIdOf)

/-! ## Counting -/

/-- Whether a link with the id and the address of another is among some. -/
def standsIn (l : WebLink) (links : List WebLink) : Bool :=
  links.any fun l' => l'.globalId = l.globalId && l'.uri = l.uri

/-- No link with the id is among those of entries that do not have it. -/
theorem Shows.standsIn_eq_false {l : WebLink} {entries : List Json} {links : List WebLink} (h : Shows entries links)
    (hne : ∀ entry ∈ entries, isOwn entry = true → globalIdOf entry ≠ .str l.globalId) : standsIn l links = false := by
  rw [standsIn, List.any_eq_false]
  intro l' hl' hsame
  obtain ⟨hid, -⟩ : l'.globalId = l.globalId ∧ l'.uri = l.uri := by simpa using hsame
  obtain ⟨entry, hentry, hown, hglobal⟩ := h.exists_of_mem hl'
  exact hne entry hentry hown (hid ▸ hglobal)

/-- Putting a link's entry makes one more link with its address, unless one is there under its id. -/
theorem Shows.putEntries {l : WebLink} (hl : l.Keepable) (number : Json) {entries : List Json} {links : List WebLink}
    (h : Shows entries links)
    (hdistinct : entries.Pairwise fun a b => isOwn a → isOwn b → globalIdOf a ≠ globalIdOf b) :
    ∃ links', Shows (putEntries l number entries) links' ∧
      links'.countP (·.uri = l.uri) = links.countP (·.uri = l.uri) + if standsIn l links then 0 else 1 := by
  have hnumbered (number : Json) : (read (WebLink.EntryForm.numbered l number)).map Prod.fst = .ok l.stored := by
    rw [WebLink.EntryForm.read_numbered hl.readsBack]
    rfl
  have hstands (old : WebLink) (links : List WebLink) : standsIn l (old :: links) =
      (decide (old.globalId = l.globalId) && decide (old.uri = l.uri) || standsIn l links) := rfl
  induction entries generalizing links with
  | nil =>
    obtain rfl : links = [] := by simpa [Shows] using h.symm
    refine ⟨[l.stored], (cons_own (isOwn_numbered hl number)).2 ⟨_, _, rfl, hnumbered number, rfl⟩, ?_⟩
    simp [standsIn, WebLink.stored]
  | cons entry rest ih =>
    obtain ⟨hne, hdistinct'⟩ := List.pairwise_cons.1 hdistinct
    unfold IssueTracker.putEntries at ih ⊢
    unfold upserted
    by_cases hid : globalIdOf entry = .str l.globalId
    · -- Ids are distinct, so this is the one place where the link can stand.
      have hown := isOwn_of_globalId hl.addressed (WebLink.EntryForm.get?_of_globalIdOf hid)
      obtain ⟨old, links, rfl, hread, hrest⟩ := (cons_own hown).1 h
      have hothers := hrest.standsIn_eq_false fun entry' hentry' hown' => hid ▸ (hne entry' hentry' hown hown').symm
      have hold : old.globalId = l.globalId :=
        Json.str.inj ((WebLink.EntryForm.globalIdOf_of_read hown hread).symm.trans hid)
      rw [if_pos ((Json.beq_str _ _).2 hid)]
      refine ⟨l.stored :: links, (cons_own (isOwn_numbered hl _)).2 ⟨_, _, rfl, hnumbered _, hrest⟩, ?_⟩
      rw [hstands, hothers, List.countP_cons, List.countP_cons]
      by_cases huri : old.uri = l.uri <;> simp [hold, huri, WebLink.stored]
    · rw [if_neg fun hbeq => hid ((Json.beq_str _ _).1 hbeq)]
      cases hown : isOwn entry with
      | false =>
        obtain ⟨links', h', hcount⟩ := ih ((cons_other hown).1 h) hdistinct'
        exact ⟨links', (cons_other hown).2 h', hcount⟩
      | true =>
        obtain ⟨old, links, rfl, hread, hrest⟩ := (cons_own hown).1 h
        obtain ⟨links', h', hcount⟩ := ih hrest hdistinct'
        have hother : old.globalId ≠ l.globalId := by
          intro heq
          exact hid (heq ▸ WebLink.EntryForm.globalIdOf_of_read hown hread)
        refine ⟨old :: links', (cons_own hown).2 ⟨_, _, rfl, hread, h'⟩, ?_⟩
        rw [hstands, List.countP_cons, List.countP_cons, hcount]
        simp only [hother, decide_false, Bool.false_and, Bool.false_or]
        omega

/-! ## Adding what is stored -/

/-- In a project without restriction adding a link always succeeds, and what was listed can still
be. There is one more link with the address then, unless one was listed under the id that is
derived from it: a link that is stored under another id is not found. -/
theorem addLink_count_native {p : Project} {s : Snapshot} {w : World} {links : List WebLink} {l : WebLink}
    (hp : p.visibilityRole = none) (hreachable : w.tracker.Reachable)
    (hpermitted : w.tracker.deniesRemoteLinks = false)
    (hdistinct : (w.tracker.remoteLinksOf s.id).Pairwise fun a b => isOwn a → isOwn b → globalIdOf a ≠ globalIdOf b)
    (hlist : w.result (RemoteLinks.mk s.path).list = .ok links) (hl : l.Built) :
    let w' := w.after (s.addLink p (.web l))
    w.result (s.addLink p (.web l)) = .ok () ∧
      ∃ links', w'.result (RemoteLinks.mk s.path).list = .ok links' ∧
        (∀ ls, w.result (s.links p) = .ok ls → ls.filterMap Link.native? = links) ∧
        (∀ ls, w'.result (s.links p) = .ok ls → ls.filterMap Link.native? = links') ∧
        links'.countP (·.uri = l.uri) = links.countP (·.uri = l.uri) +
          if links.any fun l' => l'.globalId = WebLink.derivedId l.uri && l'.uri = l.uri then 0 else 1 := by
  intro w'
  have hs := Snapshot.on_of_list hreachable.commentsNumbered hlist
  have hshows := RemoteLinks.shows_of_list hs hpermitted hlist
  have hid : l.globalId = WebLink.derivedId l.uri := by rw [WebLink.globalId, hl.unstored, Option.getD_none]
  obtain ⟨hresult, hbut, hentries, -⟩ := RemoteLinks.adds hs l
  rw [← s.addLink_unrestricted hp] at hresult hbut hentries
  obtain ⟨links', hshows', hcount⟩ := hshows.putEntries hl.keepable (.num (.int w.tracker.nextRemoteLinkId)) hdistinct
  have hpermitted' : w'.tracker.deniesRemoteLinks = false :=
    (Tracker.deniesRemoteLinks_of_butRemoteLinks hbut).trans hpermitted
  have hlist' : w'.result (RemoteLinks.mk s.path).list = .ok links' := by
    rw [RemoteLinks.list_eq_ok (hs.of_butRemoteLinks hbut), hpermitted', hentries]
    exact hshows'
  refine ⟨hresult, links', hlist', ?_, ?_, ?_⟩
  · intro ls hls
    exact Except.ok.inj ((s.parts_of_links w p hls).1.symm.trans hlist)
  · intro ls hls
    exact Except.ok.inj ((s.parts_of_links w' p hls).1.symm.trans hlist')
  · rw [hcount, standsIn, hid]

/-- A tracker with the entry of a link. -/
def Tracker.mirrored : Tracker :=
  (Tracker.ofIssue "X-1" "Open" []).addRemoteLink "X-1" (WebLink.EntryForm.render .mirror)

theorem Tracker.reachable_mirrored : Tracker.mirrored.Reachable :=
  (reachable_ofIssue "X-1" "Open" []).step (.remoteLink _ "X-1" _)

/-- A link under its own id is replaced. -/
theorem addLink_replaces_mirror :
    let w : World := ⟨Tracker.mirrored, none⟩
    let s := Snapshot.ofIssue "X-1" "Open"
    Project.unrestricted.visibilityRole = none ∧ w.tracker.Reachable ∧ w.tracker.deniesRemoteLinks = false ∧
      (w.tracker.remoteLinksOf s.id).Pairwise (fun a b => isOwn a → isOwn b → globalIdOf a ≠ globalIdOf b) ∧
      w.result (RemoteLinks.mk s.path).list = .ok [WebLink.mirror.stored] ∧ WebLink.mirror.Built ∧
      ∃ links', (w.after (s.addLink .unrestricted (.web .mirror))).result (RemoteLinks.mk s.path).list = .ok links' ∧
        links'.countP (·.uri = .repository) = 1 := by
  intro w s
  have hdistinct : (w.tracker.remoteLinksOf s.id).Pairwise
      fun a b => isOwn a → isOwn b → globalIdOf a ≠ globalIdOf b := List.pairwise_singleton _ _
  have hlist : w.result (RemoteLinks.mk s.path).list = .ok [WebLink.mirror.stored] := by decide +kernel
  obtain ⟨-, links', hlist', -, -, hcount⟩ :=
    addLink_count_native (p := .unrestricted) rfl Tracker.reachable_mirrored rfl hdistinct hlist WebLink.built_mirror
  exact ⟨rfl, Tracker.reachable_mirrored, rfl, hdistinct, hlist, WebLink.built_mirror, links', hlist',
    hcount.trans (by decide +kernel)⟩

/-- Where the address is stored under an id that spells it in another way, adding a link to it
makes two. -/
theorem addLink_duplicates_untidy :
    let w : World := ⟨Tracker.untidy, none⟩
    let s := Snapshot.ofIssue "X-1" "Open"
    w.result (RemoteLinks.mk s.path).list = .ok [.untidy] ∧ WebLink.untidy.uri = WebLink.mirror.uri ∧
      w.result (s.addLink .unrestricted (.web .mirror)) = .ok () ∧
      (w.after (s.addLink .unrestricted (.web .mirror))).result (RemoteLinks.mk s.path).list =
        .ok [.untidy, WebLink.mirror.stored] := by
  decide +kernel

end IssueTracker
