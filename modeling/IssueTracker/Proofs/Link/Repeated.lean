import Mathlib.Logic.Function.Iterate
import IssueTracker.Proofs.Link.Posted
import IssueTracker.Proofs.Link.RoundTrip
import IssueTracker.Proofs.Tracker.Reachable
/-!
# Adding a link again

In a restricted project a link is added once if its comment can be told to be its own: if the
title is a line and the other parts take no more lines than a comment has for them. The comment of
any other link stands for something else or for nothing. Such a link is never shown, and each time
it is added another comment is written.
-/

namespace IssueTracker

/-! ## Links that are told from their comments -/

namespace WebLink

/-- The title is a line, and there is room for the other parts. -/
structure Recognizable (l : WebLink) : Prop where
  title : Text.OneLine l.title.toList
  room : lineCount l.summary + lineCount l.relationship ≤ 2

instance (l : WebLink) : Decidable l.Recognizable :=
  decidable_of_iff (Text.OneLine l.title.toList ∧ lineCount l.summary + lineCount l.relationship ≤ 2)
    ⟨fun h => ⟨h.1, h.2⟩, fun h => ⟨h.title, h.room⟩⟩

theorem sameTarget_iff {a b : WebLink} : a.sameTarget b = true ↔ a.uri = b.uri ∧ a.title = b.title := by
  simp [sameTarget]

end WebLink

namespace WebLink.CommentForm

/-- The comment for a link stands for one with its address and title exactly when the link can be
told from it. -/
theorem parse?_render_sameTarget_iff {l : WebLink} (huri : l.uri.Written) :
    (parse? (render l)).any (·.sameTarget l) = true ↔ l.Recognizable := by
  constructor
  · intro hany
    obtain ⟨l', hread, hsame⟩ := (Option.any_eq_true _ _).1 hany
    obtain ⟨-, htitle⟩ := sameTarget_iff.1 hsame
    -- A title that is read holds no line feed, so the title is the one of the first line.
    have hfree : '\n' ∉ l.title.toList := htitle ▸ (noFeed_of_parse? hread).1
    rw [parse?, read_render_of_noFeed huri.readsBack huri.oneLine hfree] at hread
    split at hread
    · cases hread
    · rename_i hroom
      obtain rfl := Option.some.inj hread
      exact ⟨⟨hfree, unreturned_eq_self.1 htitle⟩, by omega⟩
  · intro h
    rw [parse?, read_render_of_noFeed huri.readsBack huri.oneLine h.title.noFeed, if_neg (by have := h.room; omega),
      unreturned_eq_self.2 h.title.noReturn]
    exact sameTarget_iff.2 ⟨rfl, rfl⟩

end WebLink.CommentForm

/-! ## One addition -/

/-- The number of requests of a program that post something. -/
def World.postCount {α : Type} (w : World) (program : Program α) : Nat :=
  (w.calls program).countP (·.method = .post)

theorem World.postCount_of_reads {α : Type} {program : Program α} (h : program.Sends Request.Reads) (w : World) :
    (w.calls program).countP (·.method = .post) = 0 := by
  rw [List.countP_eq_zero]
  intro r hr
  have hget : r.method = .get := World.calls_of_sends h w r hr
  simp [hget]

section Additions

variable {p : Project} {s : Snapshot} {w : World} {docs : List Json} {l : WebLink}

namespace World.Lists

/-- Where a link with the address and title is shown, nothing is posted. -/
theorem addLink_shown (hp : p.isRestricted = true) (h : w.Lists s docs)
    (hshown : 0 < (postedLinks docs).countP (·.sameTarget l)) :
    w.result (s.addLink p (.web l)) = .ok () ∧ w.postCount (s.addLink p (.web l)) = 0 ∧
      (w.after (s.addLink p (.web l))).Lists s docs := by
  let store := CommentStore.mk s.path p.visibilityRole
  have hfound : (postedLinks docs).any (·.sameTarget l) = true := by
    simpa [List.countP_pos_iff] using hshown
  obtain ⟨hresult, hafter, hcalls⟩ := CommentStore.addLink_found (h.listLinks p.visibilityRole) hfound
  have hunlogged := World.unlogged_after store.reads_listLinks w
  rw [s.addLink_restricted hp, World.postCount, hafter, hcalls]
  exact ⟨hresult, World.postCount_of_reads store.reads_listLinks w, h.on.of_unlogged hunlogged,
    (Tracker.commentsOf_of_unlogged hunlogged s.id).trans h.comments_eq, h.reads⟩

/-- Where none is shown, a comment is posted, and shown if the link can be told from it. -/
theorem addLink_hidden (hp : p.isRestricted = true) (huri : l.uri.Written) (h : w.Lists s docs)
    (hhidden : (postedLinks docs).countP (·.sameTarget l) = 0) :
    w.result (s.addLink p (.web l)) = .ok () ∧ w.postCount (s.addLink p (.web l)) = 1 ∧
      ∃ doc, (postedLinks (docs ++ [doc])).countP (·.sameTarget l) = (if l.Recognizable then 1 else 0) ∧
        (w.after (s.addLink p (.web l))).Lists s (docs ++ [doc]) := by
  let store := CommentStore.mk s.path p.visibilityRole
  let doc := store.document w.tracker (WebLink.CommentForm.render l)
  have hnew : (postedLinks docs).any (·.sameTarget l) = false := by
    simpa [List.countP_eq_zero] using hhidden
  obtain ⟨hresult, hcalls, hon, hcomments, -⟩ :=
    CommentStore.addLink_new h.on p.visibilityRole (h.listLinks p.visibilityRole) hnew
  have hcount : (postedLinks (docs ++ [doc])).countP (·.sameTarget l) = if l.Recognizable then 1 else 0 := by
    rw [postedLinks_append, List.countP_append, hhidden, store.postedLink?_document, Nat.zero_add]
    simp only [← WebLink.CommentForm.parse?_render_sameTarget_iff huri]
    cases WebLink.CommentForm.parse? (WebLink.CommentForm.render l) with
    | none => rfl
    | some l' => simp [List.countP_singleton]
  rw [s.addLink_restricted hp, World.postCount, hcalls, List.countP_append,
    World.postCount_of_reads store.reads_listLinks w]
  refine ⟨hresult, rfl, doc, hcount, hon, hcomments.trans (congrArg (· ++ [doc]) h.comments_eq), ?_⟩
  intro doc' hdoc'
  rcases List.mem_append.1 hdoc' with hdoc' | hdoc'
  · exact h.reads doc' hdoc'
  · obtain rfl := List.mem_singleton.1 hdoc'
    obtain ⟨c, hread, -⟩ := store.ofJson_document w.tracker (WebLink.CommentForm.render l)
    exact ⟨c, hread⟩

end World.Lists

/-! ## Additions in turn -/

/-- The world after a link has been added a number of times. -/
def World.afterAdding (w : World) (p : Project) (s : Snapshot) (l : WebLink) (n : Nat) : World :=
  (World.after · (s.addLink p (.web l)))^[n] w

theorem World.afterAdding_succ (w : World) (p : Project) (s : Snapshot) (l : WebLink) (n : Nat) :
    w.afterAdding p s l (n + 1) = (w.afterAdding p s l n).after (s.addLink p (.web l)) :=
  Function.iterate_succ_apply' _ n w

/-- After any number of additions the link is shown once or never, and comments have been written
once or every time. -/
theorem World.Lists.afterAdding (hp : p.isRestricted = true) (huri : l.uri.Written) (h : w.Lists s docs)
    (hhidden : (postedLinks docs).countP (·.sameTarget l) = 0) (n : Nat) :
    ∃ docs', (w.afterAdding p s l (n + 1)).Lists s docs' ∧
      (postedLinks docs').countP (·.sameTarget l) = (if l.Recognizable then 1 else 0) ∧
      docs'.length = docs.length + if l.Recognizable then 1 else n + 1 := by
  induction n with
  | zero =>
    obtain ⟨-, -, doc, hcount, h'⟩ := h.addLink_hidden hp huri hhidden
    refine ⟨_, h', hcount, ?_⟩
    rw [List.length_append]
    split <;> rfl
  | succ n ih =>
    obtain ⟨docs', h', hcount, hlength⟩ := ih
    rw [World.afterAdding_succ]
    by_cases hl : l.Recognizable
    · rw [if_pos hl] at hcount hlength
      obtain ⟨-, -, h''⟩ := h'.addLink_shown (l := l) hp (by omega)
      exact ⟨docs', h'', by rw [hcount, if_pos hl], by rw [hlength, if_pos hl]⟩
    · rw [if_neg hl] at hcount hlength
      obtain ⟨-, -, doc, hcount', h''⟩ := h'.addLink_hidden hp huri hcount
      refine ⟨_, h'', hcount', ?_⟩
      rw [List.length_append, hlength, if_neg hl, List.length_singleton]
      omega

/-- In a restricted project, a link whose address and title no comment stands for is added
whenever it is asked for. If the link can be told from its comment, it is shown once from then on
and no further addition posts anything. If not, it is never shown and every addition posts one
more comment. -/
theorem addLink_shown_once_or_never (hp : p.isRestricted = true) (hreachable : w.tracker.Reachable)
    {comments : List Comment} (hlist : w.result (s.comments p) = .ok comments)
    (hnew : ∀ c ∈ comments, ∀ l', WebLink.CommentForm.parse? c.body = some l' → l'.sameTarget l = false)
    (huri : l.uri.Written) (n : Nat) :
    let w' := w.afterAdding p s l (n + 1)
    w.result (s.addLink p (.web l)) = .ok () ∧
      (∃ shown, w'.result (s.commentStore p).listLinks = .ok shown ∧
        shown.countP (·.sameTarget l) = if l.Recognizable then 1 else 0) ∧
      w'.result (s.addLink p (.web l)) = .ok () ∧
      w'.postCount (s.addLink p (.web l)) = (if l.Recognizable then 0 else 1) ∧
      (w'.tracker.commentsOf s.id).length =
        (w.tracker.commentsOf s.id).length + if l.Recognizable then 1 else n + 1 := by
  intro w'
  have hs := Snapshot.on_of_comments hreachable.commentsNumbered hlist
  have hreads := (CommentStore.list_eq_ok hs p.visibilityRole).1 hlist
  have h : w.Lists s (w.tracker.commentsOf s.id) := by
    refine ⟨hs, rfl, fun doc hdoc => ?_⟩
    obtain ⟨c, -, hc⟩ := result_of_mem hreads hdoc
    exact ⟨c, hc⟩
  have hhidden : (postedLinks (w.tracker.commentsOf s.id)).countP (·.sameTarget l) = 0 := by
    rw [List.countP_eq_zero, ← filterMap_parse? hreads]
    intro l' hl'
    obtain ⟨c, hc, hparse⟩ := List.mem_filterMap.1 hl'
    simp [hnew c hc l' hparse]
  obtain ⟨docs', h', hcount, hlength⟩ := h.afterAdding hp huri hhidden n
  refine ⟨(h.addLink_hidden hp huri hhidden).1, ⟨_, h'.listLinks p.visibilityRole, hcount⟩, ?_⟩
  rw [h'.comments_eq]
  by_cases hl : l.Recognizable
  · rw [if_pos hl] at hcount
    obtain ⟨hresult, hposts, -⟩ := h'.addLink_shown (l := l) hp (by omega)
    exact ⟨hresult, by rw [hposts, if_pos hl], hlength⟩
  · rw [if_neg hl] at hcount
    obtain ⟨hresult, hposts, -⟩ := h'.addLink_hidden hp huri hcount
    exact ⟨hresult, by rw [hposts, if_neg hl], hlength⟩

end Additions

theorem Tracker.reachable_remarked : Tracker.remarked.Reachable :=
  (reachable_ofIssue "X-1" "Open" []).step (.comment _ "X-1" "rk" "Seen on Linux")

/-- A link whose title takes two lines. -/
def WebLink.twoLines : WebLink := .ofUri .repository "Build\nnightly"

/-- Such a link is not shown after it was added, and adding it again posts another comment. -/
theorem addLink_twoLines_not_shown :
    let w : World := ⟨Tracker.remarked, none⟩
    let s := Snapshot.ofIssue "X-1" "Open"
    let w' := w.after (s.addLink .restricted (.web .twoLines))
    w.result (s.addLink .restricted (.web .twoLines)) = .ok () ∧
      w'.result (s.commentStore .restricted).listLinks = .ok [] ∧
      w'.postCount (s.addLink .restricted (.web .twoLines)) = 1 := by
  decide +kernel

/-- A plain link is shown once and posted once, however often it is added. -/
theorem addLink_mirror_shown_once :
    let w : World := ⟨Tracker.remarked, none⟩
    let s := Snapshot.ofIssue "X-1" "Open"
    Project.restricted.isRestricted = true ∧ w.tracker.Reachable ∧
      (∃ comments, w.result (s.comments .restricted) = .ok comments ∧
        ∀ c ∈ comments, ∀ l', WebLink.CommentForm.parse? c.body = some l' → l'.sameTarget .mirror = false) ∧
      WebLink.mirror.uri.Written ∧
      ((w.afterAdding .restricted s .mirror 3).tracker.commentsOf s.id).length = 2 := by
  intro w s
  obtain ⟨comments, hlist, hnew⟩ : ∃ comments, w.result (s.comments .restricted) = .ok comments ∧
      ∀ c ∈ comments, ∀ l', WebLink.CommentForm.parse? c.body = some l' → l'.sameTarget .mirror = false := by
    have hbodies : (w.result (s.comments .restricted)).map (List.map Comment.body) = .ok ["Seen on Linux"] := by
      decide +kernel
    cases hlist : w.result (s.comments .restricted) with
    | error e => simp [hlist, Except.map] at hbodies
    | ok comments =>
      have hbody : comments.map Comment.body = ["Seen on Linux"] := by simpa [hlist, Except.map] using hbodies
      refine ⟨comments, rfl, fun c hc l' hparse => ?_⟩
      have hmem : c.body ∈ ["Seen on Linux"] := hbody ▸ List.mem_map_of_mem hc
      have hnone : WebLink.CommentForm.parse? "Seen on Linux" = none := by decide +kernel
      rw [List.mem_singleton.1 hmem, hnone] at hparse
      cases hparse
  refine ⟨rfl, Tracker.reachable_remarked, ⟨comments, hlist, hnew⟩, Url.written_repository, ?_⟩
  have hlength := (addLink_shown_once_or_never (p := .restricted) rfl Tracker.reachable_remarked hlist hnew
    Url.written_repository 2).2.2.2.2
  rw [if_pos (by decide)] at hlength
  exact hlength

end IssueTracker
