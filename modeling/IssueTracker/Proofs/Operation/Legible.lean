import IssueTracker.Proofs.Comment.Page
import IssueTracker.Proofs.Link.Remote
import IssueTracker.Proofs.Operation.Asks
import IssueTracker.Proofs.Tracker.Legible
/-!
# Trackers that stay legible

A tracker on which every issue, every comment and every own remote link can be read, and every stored
link leads to an issue that is there. No request of an action takes that away, as long as addresses
can be read, links lead to issues that are there and no property is kept in a field that matters.
-/

namespace IssueTracker

/-- Everything on a tracker can be read. Its issues are those of some keys, which paths can hold. -/
structure Tracker.Legible (keys : String → Prop) (t : Tracker) : Prop where
  slashFree : ∀ key, keys key → '/' ∉ key.toList
  known : ∀ key, keys key → ∃ issue, Table.get? key t.issues = some issue
  issues : ∀ key issue, Table.get? key t.issues = some issue → keys key ∧ LegibleIssue keys key issue
  comments : ∀ key, ∀ doc ∈ t.commentsOf key, LegibleComment doc
  entries : ∀ key, ∀ entry ∈ t.remoteLinksOf key, LegibleEntry entry

namespace Tracker

variable {keys : String → Prop} {t t' : Tracker} {key : String} {r : Request}

namespace Legible

theorem of_eq (h : t.Legible keys) (hissues : t'.issues = t.issues) (hcomments : t'.comments = t.comments)
    (hentries : t'.remoteLinks = t.remoteLinks) : t'.Legible keys := by
  refine ⟨h.slashFree, ?_, ?_, ?_, ?_⟩
  · rw [hissues]
    exact h.known
  · rw [hissues]
    exact h.issues
  · unfold commentsOf
    rw [hcomments]
    exact h.comments
  · unfold remoteLinksOf
    rw [hentries]
    exact h.entries

theorem of_unlogged (h : t.Legible keys) (heq : t'.unlogged = t.unlogged) : t'.Legible keys :=
  h.of_eq (congrArg Tracker.issues heq :) (congrArg Tracker.comments heq :) (congrArg Tracker.remoteLinks heq :)

theorem on (h : t.Legible keys) {s : Snapshot} (hs : keys s.id) : s.On t := by
  obtain ⟨issue, hissue⟩ := h.known _ hs
  exact ⟨h.slashFree _ hs, by rw [Table.contains, hissue]; rfl⟩

theorem noted (h : t.Legible keys) (r : Request) : (t.noted r).Legible keys := h.of_eq rfl rfl rfl

theorem putIssue (h : t.Legible keys) {issue : Json} (hkey : keys key) (hissue : LegibleIssue keys key issue) :
    (t.putIssue key issue).Legible keys := by
  refine ⟨h.slashFree, fun other hother => ?_, fun other issue' hget => ?_, h.comments, h.entries⟩
  · rw [Tracker.putIssue, Table.get?_insert]
    split
    · exact ⟨_, rfl⟩
    · exact h.known other hother
  · rw [Tracker.putIssue, Table.get?_insert] at hget
    split at hget
    · rename_i heq
      subst heq
      obtain rfl := Option.some.inj hget
      exact ⟨hkey, hissue⟩
    · exact h.issues other issue' hget

theorem putComments (h : t.Legible keys) {docs : List Json} (hdocs : ∀ doc ∈ docs, LegibleComment doc) :
    (t.putComments key docs).Legible keys := by
  refine ⟨h.slashFree, h.known, h.issues, fun other => ?_, h.entries⟩
  rw [commentsOf_putComments]
  split
  · exact hdocs
  · exact h.comments other

theorem putRemoteLinks (h : t.Legible keys) {entries : List Json} (hentries : ∀ entry ∈ entries, LegibleEntry entry) :
    (t.putRemoteLinks key entries).Legible keys := by
  refine ⟨h.slashFree, h.known, h.issues, h.comments, fun other => ?_⟩
  rw [remoteLinksOf, Tracker.putRemoteLinks, Table.get?_insert]
  split
  · exact hentries
  · exact h.entries other

/-! ## Routes -/

theorem issueRoute (h : t.Legible keys)
    (hbody : ∀ pair ∈ (((bodyOf r).get? "fields").bind Json.asObject?).getD [], LegibleField keys pair.1 pair.2) :
    (t.issueRoute key r).1.Legible keys := by
  unfold Tracker.issueRoute
  split
  · exact h
  · rename_i issue hissue
    obtain ⟨hkey, hlegible⟩ := h.issues _ _ hissue
    split
    · exact h
    · exact h.putIssue hkey (hlegible.changeIssue hbody)
    · exact h

theorem assigneeRoute (h : t.Legible keys) : (t.assigneeRoute key r).1.Legible keys := by
  unfold Tracker.assigneeRoute
  split
  · exact h
  · rename_i issue hissue
    obtain ⟨hkey, hlegible⟩ := h.issues _ _ hissue
    dsimp only
    split
    · rename_i changed hset
      exact h.putIssue hkey (hlegible.withField? (.of_notMem (by decide) _) hset)
    · exact h

theorem transitionsRoute (h : t.Legible keys) : (t.transitionsRoute key r).1.Legible keys := by
  unfold Tracker.transitionsRoute
  split
  · exact h
  · rename_i issue hissue
    obtain ⟨hkey, hlegible⟩ := h.issues _ _ hissue
    dsimp only
    split
    · exact h
    · split
      · exact h
      · split
        · rename_i changed hset
          exact h.putIssue hkey (hlegible.withStatus? hset)
        · exact h
    · exact h

theorem commentsRoute (h : t.Legible keys) : (t.commentsRoute key r).1.Legible keys := by
  unfold Tracker.commentsRoute
  split
  · exact h
  · split
    · exact h
    · let text := (((bodyOf r).getD "body").asString?).getD ""
      let comment := restricted (bodyOf r) (t.newComment t.user text)
      have hput : (t.putComments key (t.commentsOf key ++ [comment])).Legible keys := by
        refine h.putComments fun doc hdoc => ?_
        rcases List.mem_append.1 hdoc with hdoc | hdoc
        · exact h.comments key doc hdoc
        · obtain rfl := List.mem_singleton.1 hdoc
          exact .new t _ _ _
      exact hput.of_eq rfl rfl rfl
    · exact h

theorem commentRoute (h : t.Legible keys) {id : String}
    (hbody : r.method = .put → ∃ text, (bodyOf r).getD "body" = .str text) :
    (t.commentRoute key id r).1.Legible keys := by
  unfold Tracker.commentRoute
  dsimp only
  split
  · exact h
  · rename_i i hi
    obtain ⟨hlt, -, -⟩ := List.findIdx?_eq_some_iff_getElem.1 hi
    have hcomment : LegibleComment ((t.commentsOf key)[i]?.getD .null) := by
      rw [List.getElem?_eq_getElem hlt, Option.getD_some]
      exact h.comments key _ (List.getElem_mem hlt)
    split
    · exact h
    · rename_i hput
      obtain ⟨text, htext⟩ := hbody hput
      refine h.putComments fun doc hdoc => ?_
      rcases List.mem_or_eq_of_mem_set hdoc with hdoc | rfl
      · exact h.comments key doc hdoc
      · exact hcomment.changed htext
    · exact h.putComments fun doc hdoc => h.comments key doc (List.mem_of_mem_eraseIdx hdoc)
    · exact h

theorem remoteLinksRoute (h : t.Legible keys)
    (hbody : r.method = .post → ∃ l : WebLink, l.uri.Parses ∧ bodyOf r = WebLink.EntryForm.render l) :
    (t.remoteLinksRoute key r).1.Legible keys := by
  unfold Tracker.remoteLinksRoute
  split
  · exact h
  · split
    · split <;> exact h
    · rename_i hpost
      obtain ⟨l, hparses, hrender⟩ := hbody hpost
      obtain ⟨answer, hupsert⟩ := t.upsertRemoteLink_eq key l
      have hput : (t.putRemoteLinks key (putEntries l (.num (.int t.nextRemoteLinkId)) (t.remoteLinksOf key))).Legible
          keys := by
        refine h.putRemoteLinks fun entry hentry => ?_
        rcases mem_putEntries hentry with hentry | ⟨number, rfl⟩
        · exact h.entries key entry hentry
        · exact .numbered hparses number
      rw [hrender, hupsert]
      exact hput.of_eq rfl rfl rfl
    · unfold deleteRemoteLinks
      dsimp only
      split
      · exact h
      · exact h.putRemoteLinks fun entry hentry => h.entries key entry (List.mem_filter.1 hentry).1
    · exact h

theorem addIssueLink (h : t.Legible keys) {entry : Json} (hentry : LegibleLink keys entry) :
    (t.addIssueLink key entry).1.Legible keys := by
  unfold Tracker.addIssueLink
  split
  · exact h
  · rename_i issue hissue
    obtain ⟨hkey, hlegible⟩ := h.issues _ _ hissue
    split
    · rename_i changed hset
      exact h.putIssue hkey (hlegible.withIssueLink? hentry hset)
    · exact h

/-- Both ends may store a link to the other, or only the first one if the second fails. -/
theorem issueLinkRoute (h : t.Legible keys) {inward outward : String} (hinward : keys inward) (houtward : keys outward)
    (hin : (((bodyOf r).pointer (.ofKeys ["inwardIssue", "key"])).bind Json.asString?).getD "" = inward)
    (hout : (((bodyOf r).pointer (.ofKeys ["outwardIssue", "key"])).bind Json.asString?).getD "" = outward) :
    (t.issueLinkRoute r).1.Legible keys := by
  unfold Tracker.issueLinkRoute
  simp only [hin, hout]
  split
  · exact h
  · rename_i type _
    have hfirst : (t.addIssueLink inward (issueLinkEntry type "outwardIssue" outward)).1.Legible keys :=
      h.addIssueLink (.ofEntry type (by decide) houtward)
    split
    · rename_i heq
      rwa [heq] at hfirst
    · rename_i t₁ heq
      rw [heq] at hfirst
      have hsecond : (t₁.addIssueLink outward (issueLinkEntry type "inwardIssue" inward)).1.Legible keys :=
        hfirst.addIssueLink (.ofEntry type (by decide) hinward)
      split
      · rename_i heq
        rwa [heq] at hsecond
      · rename_i heq
        rwa [heq] at hsecond

end Legible

end Tracker

/-! ## Requests of actions -/

/-- What an action may be given: addresses that can be read, and issues that are there. -/
def Action.Fits (keys : String → Prop) : Action → Prop
  | addLink (.web l) => l.uri.Parses
  | addLink (.issue target _) => keys target.id
  | _ => True

/-- Fields that properties may be kept in. -/
def PropertyCodec.Harmless (codec : PropertyCodec) : Prop :=
  ∀ m ∈ codec, m.field ∉ ["summary", "status", "issuelinks"]

namespace Action.Asks

open Snapshot (fieldsQuery)

variable {keys : String → Prop} {p : Project} {s : Snapshot} {a : Action} {r : Request} {t : Tracker}

/-- A change of an issue that sets a field to a value it may have. -/
theorem legible_field (h : t.Legible keys) (hs : keys s.id) {field : String} {value : Json}
    (hvalue : LegibleField keys field value) :
    (t.respond (.put s.path (fieldsQuery field value))).1.Legible keys := by
  rw [s.respond_issue (h.slashFree _ hs) t rfl]
  refine (h.noted _).issueRoute fun pair hpair => ?_
  rw [show Tracker.bodyOf (.put s.path (fieldsQuery field value)) = fieldsQuery field value from rfl,
    Snapshot.fields_fieldsQuery] at hpair
  obtain rfl := List.mem_singleton.1 hpair
  exact hvalue

/-- Whatever is done with a comment by its id, if the id is one. -/
theorem legible_comment (h : t.Legible keys) (hs : keys s.id) {id : String}
    (hpath : r.path = (s.commentStore p).commentPath id)
    (hbody : r.method = .put → ∃ text, (Tracker.bodyOf r).getD "body" = .str text) :
    (t.respond r).1.Legible keys := by
  have hsplit := s.split_commentPath (h.slashFree _ hs) p.visibilityRole id
  rw [Tracker.respond_eq t r (hpath ▸ hsplit)]
  unfold Tracker.route
  -- An id with a slash leads to no route.
  match Text.split '/' id with
  | [] => exact (h.noted r).commentsRoute
  | [id] => exact (h.noted r).commentRoute hbody
  | _ :: _ :: _ => exact h.noted r

/-- A link between two issues that are there. -/
theorem legible_issueLink (h : t.Legible keys) {name inward outward : String} (hinward : keys inward)
    (houtward : keys outward) :
    (t.respond (.post "issueLink" (Project.issueLinkDocument name inward outward))).1.Legible keys := by
  rw [t.respond_issueLink _ rfl rfl]
  refine (h.noted _).issueLinkRoute hinward houtward ?_ ?_ <;>
    simp (disch := decide) [Tracker.bodyOf, Request.post, Project.issueLinkDocument, Json.pointer_ofKeys,
      Json.follow_cons, Json.get?_ofMembers, Json.asString?]

/-- No request of an action leaves something that cannot be read. -/
theorem legible (h : t.Legible keys) (hs : keys s.id) (hcodec : p.codec.Harmless) (hfits : a.Fits keys)
    (hasks : a.Asks p s r) : (t.respond r).1.Legible keys := by
  have hslash := h.slashFree _ hs
  cases hasks with
  | read hmethod => exact h.of_unlogged (t.unlogged_respond r hmethod)
  | @title text =>
    exact legible_field h hs (.ofSummary text)
  | description => exact legible_field h hs (.of_notMem (by decide) _)
  | property hm => exact legible_field h hs (.of_notMem (hcodec _ hm) _)
  | newComment | linkComment =>
    rw [s.respond_comments hslash t rfl]
    exact (h.noted _).commentsRoute
  | @comment id text =>
    exact legible_comment h hs rfl fun _ => ⟨text, CommentStore.getD_bodyDocument _ _⟩
  | noComment => exact legible_comment (p := p) h hs rfl nofun
  | noLinkComment => exact legible_comment (p := p) h hs rfl nofun
  | transition =>
    rw [s.respond_transitions hslash t rfl]
    exact (h.noted _).transitionsRoute
  | labels =>
    rw [s.respond_issue hslash t rfl]
    refine (h.noted _).issueRoute fun pair hpair => ?_
    simp [Tracker.bodyOf, Request.put, Snapshot.labelsQuery, Json.get?_ofMembers] at hpair
  | assignee =>
    rw [s.respond_assignee hslash t rfl rfl]
    exact (h.noted _).assigneeRoute
  | @remoteLink l =>
    rw [s.respond_remoteLinks hslash t rfl]
    exact (h.noted _).remoteLinksRoute fun _ => ⟨l, hfits, rfl⟩
  | noRemoteLink =>
    rw [s.respond_remoteLinks hslash t rfl]
    exact (h.noted _).remoteLinksRoute nofun
  | @issueLink target _ type d =>
    cases d with
    | outward => exact legible_issueLink h hs hfits
    | inward => exact legible_issueLink h hfits hs

end Action.Asks

end IssueTracker
