import IssueTracker.Proofs.Operation.Legible
/-!
# What is written can be read back

From a tracker into which issues were put, any run of actions on issues that were fetched, in any
order and whether they succeed or not, leaves a tracker whose issues can all be fetched again, with
their comments, labels and links. What every request of an action keeps is that the tracker stays
legible; a run is fetches and actions, and a legible tracker answers all that reading asks.
-/

namespace IssueTracker

variable {α : Type}

namespace Tracker.Legible

variable {keys : String → Prop} {t : Tracker} {w : World} {p : Project} {s : Snapshot}

/-! ## Fetching -/

/-- Whatever id is asked for, a snapshot that is found is one of an issue that is there. -/
theorem key_of_issue (h : w.tracker.Legible keys) {id : String} (hfound : w.result (Project.issue id) = .ok (some s)) :
    keys s.id := by
  obtain ⟨document, hanswer, hs⟩ := World.result_issue_eq_some.1 hfound
  have hkey := Snapshot.get?_key_of_ofJson hs
  have hkeyless : ∀ key, ∀ doc ∈ w.tracker.commentsOf key, doc.get? "key" = none :=
    fun key doc hdoc => (h.comments key doc hdoc).keyless
  obtain ⟨key, -, hstored⟩ := issue_of_get hkeyless rfl hanswer (by simp [hkey])
  obtain ⟨hknown, hlegible⟩ := h.issues _ _ hstored
  obtain rfl := Json.str.inj (Option.some.inj (hlegible.key.symm.trans hkey))
  exact hknown

/-- Every issue that is there can be fetched. -/
theorem issue (h : w.tracker.Legible keys) {key : String} (hkey : keys key) :
    ∃ s, w.result (Project.issue key) = .ok (some s) ∧ s.id = key ∧ s.labels.isSome = true ∧
      ∀ entry ∈ s.document.itemsAt (.ofKeys ["fields", "issuelinks"]), LegibleLink keys entry := by
  obtain ⟨issue, hissue⟩ := h.known key hkey
  obtain ⟨-, hlegible⟩ := h.issues key issue hissue
  obtain ⟨s, hs, rfl, rfl, hlabels⟩ := hlegible.ofJson
  exact ⟨s, World.result_issue_of_finds ⟨h.slashFree _ hkey, hissue, hs⟩, rfl, hlabels, hlegible.links⟩

/-! ## Listing -/

/-- A program that only reads leaves a tracker legible. -/
theorem after_reads (h : w.tracker.Legible keys) {p : Program α} (hp : p.Sends Request.Reads) :
    (w.after p).tracker.Legible keys :=
  h.of_unlogged (World.unlogged_after hp w)

/-- All comments can be listed. -/
theorem result_comments (h : w.tracker.Legible keys) (hs : keys s.id) (p : Project) :
    ∃ comments, w.result (s.comments p) = .ok comments := by
  obtain ⟨comments, hcomments⟩ := exists_map_ok fun doc hdoc => (h.comments s.id doc hdoc).reads
  exact ⟨comments, (CommentStore.list_eq_ok (h.on hs) p.visibilityRole).2 hcomments⟩

/-- Stored links lead to issues that can be fetched. -/
theorem result_issueLinks (h : w.tracker.Legible keys) {entries : List Json}
    (hentries : ∀ entry ∈ entries, LegibleLink keys entry) :
    ∃ links, w.result (Snapshot.issueLinks entries) = .ok links := by
  induction entries generalizing w with
  | nil => exact ⟨[], rfl⟩
  | cons entry rest ih =>
    obtain ⟨key, relationship, hread, hkey⟩ := hentries entry List.mem_cons_self
    obtain ⟨target, htarget, -⟩ := h.issue hkey
    have hlink : w.result (Snapshot.fetchIssueLink entry) = .ok (.issue target relationship) :=
      (World.result_bind_ok w (p := .done (Snapshot.readIssueLink entry)) hread _).trans
        ((World.result_bind_ok w htarget _).trans rfl)
    have hafter := h.after_reads (Snapshot.reads_fetchIssueLink entry)
    obtain ⟨links, hlinks⟩ := ih hafter fun entry' hentry' => hentries entry' (List.mem_cons_of_mem _ hentry')
    refine ⟨.issue target relationship :: links, ?_⟩
    rw [Snapshot.issueLinks, World.result_bind_ok w hlink, World.result_bind_ok _ hlinks]
    rfl

/-- All links can be listed. -/
theorem result_links (h : w.tracker.Legible keys) (hs : keys s.id) (p : Project)
    (hentries : ∀ entry ∈ s.document.itemsAt (.ofKeys ["fields", "issuelinks"]), LegibleLink keys entry) :
    ∃ links, w.result (s.links p) = .ok links := by
  have hcan : w.CanList s := by
    refine .inr fun entry hentry hown => ?_
    exact h.entries s.id entry hentry hown
  obtain ⟨remote, hremote⟩ := hcan.result_list (h.on hs)
  have hlisted := h.after_reads (RemoteLinks.mk s.path).reads_list
  obtain ⟨comments, hcomments⟩ := hlisted.result_comments hs p
  have hposted : (w.after (RemoteLinks.mk s.path).list).result (s.commentStore p).listLinks = .ok _ :=
    (World.result_bind_ok _ hcomments _).trans (World.result_readLinks _ comments)
  obtain ⟨issues, hissues⟩ := (hlisted.after_reads (s.commentStore p).reads_listLinks).result_issueLinks hentries
  exact ⟨_, (s.links_eq_ok w p).2 ⟨remote, _, issues, hremote, ⟨hposted, hissues⟩, rfl⟩⟩

end Tracker.Legible

/-! ## Runs -/

/-- A tracker into which issues, link types and a workflow were put. -/
inductive Tracker.Populated : Tracker → Prop
  | empty (user : String) : Populated (.empty user)
  | issue {t : Tracker} (h : Populated t) {key : String} (hkey : '/' ∉ key.toList) (summary status : String) :
      Populated (t.addIssue key summary status)
  | linkType {t : Tracker} (h : Populated t) (type : LinkType) :
      Populated { t with linkTypes := t.linkTypes ++ [type] }
  | workflow {t : Tracker} (h : Populated t) (graph : List Transition) : Populated { t with workflow := graph }

/-- The snapshot that a fetch finds. -/
def World.found (w : World) (id : String) : List Snapshot :=
  match w.result (Project.issue id) with
  | .ok (some s) => [s]
  | _ => []

theorem World.mem_found {w : World} {id : String} {s : Snapshot} :
    s ∈ w.found id ↔ w.result (Project.issue id) = .ok (some s) := by
  unfold found
  split
  · rename_i hresult
    simp [hresult, eq_comm]
  · rename_i hnot
    exact ⟨nofun, fun hresult => absurd hresult (hnot s)⟩

/-- What is done with issues in turn, with the snapshots that were fetched: fetching whatever id, and
any action on a snapshot that was fetched, whatever labels it has come to hold. The address of a web
link that is added can be read; an issue link that is added leads to a snapshot that was fetched. -/
inductive IssueRun (p : Project) (w : World) : List Snapshot → World → Prop
  | start : IssueRun p w [] w
  | fetch {known : List Snapshot} {w' : World} (run : IssueRun p w known w') (id : String) :
      IssueRun p w (known ++ w'.found id) (w'.after (Project.issue id))
  | act {known : List Snapshot} {w' : World} (run : IssueRun p w known w') {s : Snapshot} (hs : s ∈ known)
      (labels : Option (List String)) {a : Action} (hweb : ∀ l, a = .addLink (.web l) → l.uri.Parses)
      (hissue : ∀ target relationship, a = .addLink (.issue target relationship) → target ∈ known) :
      IssueRun p w known (w'.after (a.program p { s with labels }))

namespace Tracker.Populated

variable {t : Tracker} (h : t.Populated)
include h

/-- Every issue is new. -/
theorem issues {key : String} {issue : Json} (hissue : Table.get? key t.issues = some issue) :
    '/' ∉ key.toList ∧ ∀ keys, LegibleIssue keys key issue := by
  induction h with
  | empty user => cases hissue
  | @issue t _ added hkey summary status ih =>
    rw [addIssue, Table.get?_insert] at hissue
    split at hissue
    · rename_i heq
      subst heq
      obtain rfl := Option.some.inj hissue
      exact ⟨hkey, fun keys => t.legibleIssue_newIssue key summary status⟩
    · exact ih hissue
  | linkType _ _ ih => exact ih hissue
  | workflow _ _ ih => exact ih hissue

/-- There is nothing but issues. -/
theorem comments_remoteLinks : t.comments = [] ∧ t.remoteLinks = [] := by
  induction h with
  | empty user => exact ⟨rfl, rfl⟩
  | issue _ _ _ _ ih => exact ih
  | linkType _ _ ih => exact ih
  | workflow _ _ ih => exact ih

theorem legible : t.Legible fun key => Table.contains key t.issues = true := by
  obtain ⟨hcomments, hentries⟩ := h.comments_remoteLinks
  have hknown {key : String} (hkey : Table.contains key t.issues = true) :
      ∃ issue, Table.get? key t.issues = some issue := Option.isSome_iff_exists.1 hkey
  refine ⟨fun key hkey => ?_, fun key hkey => hknown hkey, fun key issue hissue => ?_, ?_, ?_⟩
  · obtain ⟨issue, hissue⟩ := hknown hkey
    exact (h.issues hissue).1
  · exact ⟨by rw [Table.contains, hissue]; rfl, (h.issues hissue).2 _⟩
  · simp [commentsOf, hcomments, Table.get?]
  · simp [remoteLinksOf, hentries, Table.get?]

end Tracker.Populated

section Runs

variable {keys : String → Prop} {p : Project} {w w' : World} {known : List Snapshot}

/-- A run keeps the tracker legible, and all snapshots are of issues that are there. -/
theorem IssueRun.legible (hcodec : p.codec.Harmless) (hw : w.tracker.Legible keys) (hrun : IssueRun p w known w') :
    w'.tracker.Legible keys ∧ ∀ s ∈ known, keys s.id := by
  induction hrun with
  | start => exact ⟨hw, fun s hs => absurd hs (by simp)⟩
  | @fetch known w' _ id ih =>
    obtain ⟨hlegible, hknown⟩ := ih
    refine ⟨hlegible.after_reads (Project.reads_issue id), fun s hs => ?_⟩
    rcases List.mem_append.1 hs with hs | hs
    · exact hknown s hs
    · exact hlegible.key_of_issue (World.mem_found.1 hs)
  | @act known w' _ s hs labels a hweb hissue ih =>
    obtain ⟨hlegible, hknown⟩ := ih
    have hfits : a.Fits keys := by
      unfold Action.Fits
      split
      · exact hweb _ rfl
      · exact hknown _ (hissue _ _ rfl)
      · trivial
    have hs' : keys ({ s with labels } : Snapshot).id := hknown s hs
    exact ⟨World.after_preserves (fun t r ht hasks => hasks.legible ht hs' hcodec hfits)
      (Action.sends_asks p { s with labels } a) hlegible, hknown⟩

end Runs

/-- From a tracker into which issues were put, whatever was done with its issues and whether it
succeeded or not: every issue can be fetched, and its comments, labels and links can be listed then,
also after other reading, since that changes nothing but the log. -/
theorem Project.reads_back {p : Project} {custom : List FieldMapping} (hcodec : p.codec = .withCustom custom)
    (hcustom : ∀ m ∈ custom, m.field ∉ ["summary", "status", "issuelinks"]) {t : Tracker} (ht : t.Populated)
    {memory : Option (List LinkType)} {known : List Snapshot} {w : World} (hrun : IssueRun p ⟨t, memory⟩ known w)
    {key : String} (hkey : Table.contains key t.issues = true) :
    ∃ s, w.result (Project.issue key) = .ok (some s) ∧ s.id = key ∧
      (w.after (Project.issue key)).tracker.unlogged = w.tracker.unlogged ∧
      ∀ w' : World, w'.tracker.unlogged = w.tracker.unlogged →
        (∃ comments, w'.result (s.comments p) = .ok comments) ∧ (∃ labels, w'.result s.fetchLabels = .ok labels) ∧
          ∃ links, w'.result (s.links p) = .ok links := by
  have hstandard : ∀ m ∈ PropertyCodec.standard, m.field ∉ ["summary", "status", "issuelinks"] := by decide
  have hharmless : p.codec.Harmless := by
    rw [hcodec]
    intro m hm
    rcases List.mem_append.1 hm with hm | hm
    · exact hstandard m hm
    · exact hcustom m hm
  obtain ⟨hlegible, -⟩ := hrun.legible hharmless ht.legible
  obtain ⟨s, hs, rfl, hlabels, hentries⟩ := hlegible.issue hkey
  refine ⟨s, hs, rfl, World.unlogged_after (Project.reads_issue s.id) w, fun w' hw' => ?_⟩
  have hlegible' := hlegible.of_unlogged hw'
  obtain ⟨labels, hlabels⟩ := Option.isSome_iff_exists.1 hlabels
  refine ⟨hlegible'.result_comments hkey p, ⟨(labels, s), ?_⟩, hlegible'.result_links hkey p hentries⟩
  rw [Snapshot.fetchLabels, hlabels]
  rfl

/-- A tracker with two issues that may block each other. -/
def Tracker.pair : Tracker :=
  let t := ((empty "duke").addIssue "X-1" "First" "Open").addIssue "X-2" "Second" "Open"
  { t with linkTypes := t.linkTypes ++ [⟨"Blocks", "is blocked by", "blocks"⟩] }

/-- A project with a field of its own. -/
def Project.teamwork : Project := ⟨.repository, none, .withCustom [⟨"team", "customfield_1", .select⟩]⟩

/-- One of two issues is given a link to the other, a web link and a property. -/
theorem Project.reads_back_pair :
    let start : World := ⟨.pair, none⟩
    let fetched := start.after (Project.issue "X-1")
    Tracker.pair.Populated ∧ ∃ a b, start.found "X-1" = [a] ∧ fetched.found "X-2" = [b] ∧
      let act (w : World) (action : Action) : World := w.after (action.program teamwork a)
      let linked := act (fetched.after (Project.issue "X-2")) (.addLink (.issue b "Blocks"))
      let w := act (act linked (.addLink (.web .mirror))) (.setProperty "team" (.str "blue"))
      IssueRun teamwork start [a, b] w ∧ ∃ s, w.result (Project.issue "X-1") = .ok (some s) ∧
        (∃ comments, w.result (s.comments teamwork) = .ok comments) ∧
        ∃ links, w.result (s.links teamwork) = .ok links := by
  intro start fetched
  have hpair : Tracker.pair.Populated :=
    .linkType (.issue (.issue (.empty "duke") (by decide) "First" "Open") (by decide) "Second" "Open") _
  obtain ⟨a, ha⟩ : ∃ a, start.found "X-1" = [a] := List.length_eq_one_iff.1 (by decide +kernel)
  obtain ⟨b, hb⟩ : ∃ b, fetched.found "X-2" = [b] := List.length_eq_one_iff.1 (by decide +kernel)
  refine ⟨hpair, a, b, ha, hb, ?_⟩
  intro act linked w
  have hfirst : IssueRun teamwork start [a] fetched := ha ▸ .fetch .start "X-1"
  have hboth : IssueRun teamwork start [a, b] (fetched.after (Project.issue "X-2")) := by
    have h := hfirst.fetch "X-2"
    rwa [hb] at h
  have hmem : a ∈ [a, b] := List.mem_cons_self
  have hmirror : WebLink.mirror.uri.Parses := ⟨_, Url.readsBack_repository⟩
  have hlinked : IssueRun teamwork start [a, b] linked :=
    hboth.act (a := .addLink (.issue b "Blocks")) hmem a.labels (by rintro _ ⟨⟩) (by rintro _ _ ⟨⟩; simp)
  have hposted : IssueRun teamwork start [a, b] (act linked (.addLink (.web .mirror))) :=
    hlinked.act hmem a.labels (by rintro _ ⟨⟩; exact hmirror) (by rintro _ _ ⟨⟩)
  have hrun : IssueRun teamwork start [a, b] w :=
    hposted.act hmem a.labels (by rintro _ ⟨⟩) (by rintro _ _ ⟨⟩)
  have hcustom : ∀ m ∈ [(⟨"team", "customfield_1", .select⟩ : FieldMapping)],
      m.field ∉ ["summary", "status", "issuelinks"] := by decide
  have hkey : Table.contains "X-1" Tracker.pair.issues = true := by decide +kernel
  obtain ⟨s, hs, -, -, hreads⟩ := reads_back (p := teamwork) rfl hcustom hpair hrun hkey
  obtain ⟨hcomments, -, hlinks⟩ := hreads w rfl
  exact ⟨hrun, s, hs, hcomments, hlinks⟩

end IssueTracker
