import IssueTracker.Proofs.Comment.Documents
import IssueTracker.Proofs.Link.Entry
import IssueTracker.Proofs.Tracker.Fetch
import IssueTracker.Snapshot.Operations
/-!
# Documents that can be read

What it takes that an issue, a comment and a remote-link entry of a tracker can be read, and which
changes of such documents keep them so. An issue may have any fields: three of them matter, its
summary, its status and its links to other issues, and a change of another field is harmless.
-/

namespace IssueTracker

/-! ## Issues -/

/-- A stored link that can be read, and leads to one of some issues. -/
def LegibleLink (keys : String → Prop) (entry : Json) : Prop :=
  ∃ key relationship, Snapshot.readIssueLink entry = .ok (key, relationship) ∧ keys key

/-- A value that a field of an issue may have. -/
structure LegibleField (keys : String → Prop) (field : String) (value : Json) : Prop where
  summary : field = "summary" → ∃ text, value = .str text
  status : field = "status" → ∃ name, value.get? "name" = some (.str name)
  links : field = "issuelinks" → ∀ items, value = .arr items → ∀ entry ∈ items, LegibleLink keys entry

/-- Fields of which the ones that matter are there. -/
structure LegibleFields (keys : String → Prop) (fields : Json) : Prop where
  legible : ∀ field value, fields.get? field = some value → LegibleField keys field value
  summary : (fields.get? "summary").isSome = true
  status : (fields.get? "status").isSome = true

/-- The document of an issue that can be read. -/
structure LegibleIssue (keys : String → Prop) (key : String) (issue : Json) : Prop where
  key : issue.get? "key" = some (.str key)
  fields : ∃ fields, issue.get? "fields" = some fields ∧ LegibleFields keys fields

variable {keys : String → Prop} {key : String} {issue : Json}

/-- Most fields may have any value. -/
theorem LegibleField.of_notMem {field : String} (h : field ∉ ["summary", "status", "issuelinks"]) (value : Json) :
    LegibleField keys field value := by
  simp only [List.mem_cons, List.not_mem_nil, or_false, not_or] at h
  exact ⟨fun heq => absurd heq h.1, fun heq => absurd heq h.2.1, fun heq => absurd heq h.2.2⟩

theorem LegibleField.ofSummary (text : String) : LegibleField keys "summary" (.str text) :=
  ⟨fun _ => ⟨text, rfl⟩, fun h => absurd h (by decide), fun h => absurd h (by decide)⟩

theorem LegibleField.ofStatus {value : Json} {name : String} (h : value.get? "name" = some (.str name)) :
    LegibleField keys "status" value :=
  ⟨fun h => absurd h (by decide), fun _ => ⟨name, h⟩, fun h => absurd h (by decide)⟩

theorem LegibleField.ofLinks {items : List Json} (h : ∀ entry ∈ items, LegibleLink keys entry) :
    LegibleField keys "issuelinks" (.arr items) := by
  refine ⟨fun h => absurd h (by decide), fun h => absurd h (by decide), ?_⟩
  rintro _ _ ⟨⟩
  exact h

theorem LegibleFields.set {fields fields' value : Json} {field : String} (h : LegibleFields keys fields)
    (hvalue : LegibleField keys field value) (hset : fields.set? field value = some fields') :
    LegibleFields keys fields' := by
  have hsome {other : String} (hother : (fields.get? other).isSome = true) : (fields'.get? other).isSome = true := by
    rw [Json.get?_of_set? hset]
    split
    · rfl
    · exact hother
  refine ⟨fun other value' hget => ?_, hsome h.summary, hsome h.status⟩
  rw [Json.get?_of_set? hset] at hget
  split at hget
  · rename_i heq
    subst heq
    obtain rfl := Option.some.inj hget
    exact hvalue
  · exact h.legible other value' hget

namespace LegibleIssue

/-- The snapshot of an issue, which knows its key and lists links that can be read. -/
theorem ofJson (h : LegibleIssue keys key issue) :
    ∃ s, Snapshot.ofJson issue = .ok s ∧ s.id = key ∧ s.document = issue ∧ s.labels.isSome = true := by
  obtain ⟨fields, hfields, hlegible⟩ := h.fields
  obtain ⟨summary, hsummary⟩ := Option.isSome_iff_exists.1 hlegible.summary
  obtain ⟨status, hstatus⟩ := Option.isSome_iff_exists.1 hlegible.status
  obtain ⟨text, rfl⟩ := (hlegible.legible _ _ hsummary).summary rfl
  obtain ⟨name, hname⟩ := (hlegible.legible _ _ hstatus).status rfl
  have hfield (field : String) : Tracker.fieldOf? issue field = fields.get? field := by
    rw [Tracker.fieldOf?, Json.getD, hfields]
    rfl
  have hdescribes := Snapshot.ofJson_eq_ok.2
    ⟨key, text, name, h.key, (hfield _).trans hsummary, by rw [hfield, hstatus]; exact hname, rfl⟩
  exact ⟨_, hdescribes, rfl, rfl, rfl⟩

theorem links (h : LegibleIssue keys key issue) :
    ∀ entry ∈ issue.itemsAt (.ofKeys ["fields", "issuelinks"]), LegibleLink keys entry := by
  obtain ⟨fields, hfields, hlegible⟩ := h.fields
  intro entry hentry
  simp (disch := decide) only [Json.itemsAt, Json.pointer_ofKeys, Json.follow_cons, hfields, Json.follow_nil,
    Option.bind_some, Option.bind_fun_some] at hentry
  cases hlinks : fields.get? "issuelinks" with
  | none => simp [hlinks] at hentry
  | some value =>
    rw [hlinks] at hentry
    cases value with
    | arr items => exact (hlegible.legible _ _ hlinks).links rfl items rfl entry hentry
    | _ => simp [Json.asArray?] at hentry

/-- Setting a field to a value that it may have keeps an issue legible. -/
theorem withField? {field : String} {value changed : Json} (h : LegibleIssue keys key issue)
    (hvalue : LegibleField keys field value) (hset : Tracker.withField? field value issue = some changed) :
    LegibleIssue keys key changed := by
  obtain ⟨fields, hfields, hlegible⟩ := h.fields
  obtain ⟨fields', hfields', hissue⟩ := Option.bind_eq_some_iff.1 hset
  rw [Json.getD, hfields, Option.getD_some] at hfields'
  refine ⟨?_, fields', ?_, hlegible.set hvalue hfields'⟩
  · rw [Json.get?_of_set? hissue, if_neg (by decide)]
    exact h.key
  · rw [Json.get?_of_set? hissue, if_pos rfl]

/-- A change keeps an issue legible when it sets fields to values that they may have, even where it
fails halfway. -/
theorem changeIssue {body : Json} (h : LegibleIssue keys key issue)
    (hbody : ∀ pair ∈ ((body.get? "fields").bind Json.asObject?).getD [], LegibleField keys pair.1 pair.2) :
    LegibleIssue keys key (Tracker.changeIssue body issue).1 := by
  have hharmless {field : String} (hfield : field ∉ ["summary", "status", "issuelinks"]) (value : Json) :
      Tracker.SettingKeeps (LegibleIssue keys key) field value :=
    fun _ _ hissue hset => hissue.withField? (.of_notMem hfield value) hset
  refine Tracker.changeIssue_keeps h (fun pair hpair => ?_) (hharmless (by decide)) fun _ => hharmless (by decide) _
  exact fun _ _ hissue hset => hissue.withField? (hbody pair hpair) hset

/-- Another status is a status. -/
theorem withStatus? {changed : Json} {status : String} (h : LegibleIssue keys key issue)
    (hset : Tracker.withStatus? status issue = some changed) : LegibleIssue keys key changed := by
  obtain ⟨value, hvalue, hchanged⟩ := Option.bind_eq_some_iff.1 hset
  have hname : value.get? "name" = some (.str status) := by rw [Json.get?_of_set? hvalue, if_pos rfl]
  exact h.withField? (.ofStatus hname) hchanged

/-- One more link that can be read is no harm. -/
theorem withIssueLink? {entry changed : Json} (h : LegibleIssue keys key issue) (hentry : LegibleLink keys entry)
    (hset : Tracker.withIssueLink? entry issue = some changed) : LegibleIssue keys key changed := by
  refine h.withField? (.ofLinks fun other hother => ?_) hset
  rcases List.mem_append.1 hother with hother | hother
  · apply h.links
    obtain ⟨fields, hfields, -⟩ := h.fields
    simpa (disch := decide) [Json.itemsAt, Json.pointer_ofKeys, Json.follow_cons, Json.getD, hfields] using hother
  · obtain rfl := List.mem_singleton.1 hother
    exact hentry

end LegibleIssue

/-- The entry of a link that a tracker stores can be read at either end. -/
theorem LegibleLink.ofEntry (t : LinkType) {member other : String} (hmember : member ∈ ["inwardIssue", "outwardIssue"])
    (hother : keys other) : LegibleLink keys (Tracker.issueLinkEntry t member other) := by
  simp only [List.mem_cons, List.not_mem_nil, or_false] at hmember
  rcases hmember with rfl | rfl
  · exact ⟨other, t.inward, Tracker.readIssueLink_inwardIssue t other, hother⟩
  · exact ⟨other, t.outward, Tracker.readIssueLink_outwardIssue t other, hother⟩

/-- A new issue can be read. -/
theorem Tracker.legibleIssue_newIssue (t : Tracker) (key summary status : String) :
    LegibleIssue keys key (t.newIssue key summary status) := by
  have hkey : (t.newIssue key summary status).get? "key" = some (.str key) := by
    simp [newIssue, Json.get?_ofMembers]
  refine ⟨hkey, _, by simp only [newIssue, Json.get?_ofMembers, Table.get?_ofEntries_cons,
    Table.get?_ofEntries_nil, Option.none_or, if_pos, Option.some_or]; rfl, ?_⟩
  refine ⟨fun field value hget => ?_, by simp [Json.get?_ofMembers], by simp [Json.get?_ofMembers]⟩
  refine ⟨?_, ?_, ?_⟩
  · rintro rfl
    exact ⟨summary, by simpa [Json.get?_ofMembers, eq_comm] using hget⟩
  · rintro rfl
    obtain rfl : Json.ofMembers [("name", .str status)] = value := by simpa [Json.get?_ofMembers] using hget
    exact ⟨status, by simp [Json.get?_ofMembers]⟩
  · rintro rfl items rfl entry hentry
    obtain rfl : [] = items := by simpa [Json.get?_ofMembers] using hget
    cases hentry

/-! ## Comments -/

/-- The document of a comment that can be read, and is no issue. -/
structure LegibleComment (doc : Json) : Prop where
  reads : ∃ c, Comment.ofJson doc = .ok c
  keyless : doc.get? "key" = none

/-- A new comment can be read, whatever it is restricted to. -/
theorem LegibleComment.new (t : Tracker) (request : Json) (author body : String) :
    LegibleComment (Tracker.restricted request (t.newComment author body)) := by
  refine ⟨⟨_, (Tracker.ofJson_restricted _ _).trans (t.ofJson_newComment author body)⟩, ?_⟩
  rw [Tracker.get?_restricted (by decide), Tracker.get?_newComment]
  simp

/-- A comment with another text for its body can still be read. -/
theorem LegibleComment.changed {doc : Json} (h : LegibleComment doc) {request : Json} {text : String}
    (hrequest : request.getD "body" = .str text) : LegibleComment (Tracker.changeComment request doc) := by
  obtain ⟨c, hread⟩ := h.reads
  refine ⟨⟨_, Tracker.ofJson_changeComment hread hrequest⟩, ?_⟩
  rw [Tracker.get?_changeComment hread hrequest (by decide), if_neg (by decide), if_neg (by decide), h.keyless]

/-! ## Remote links -/

open WebLink.EntryForm (isOwn read render numbered)

/-- An entry that can be read if it is this library's own. -/
def LegibleEntry (entry : Json) : Prop := isOwn entry = true → ∃ l warnings, read entry = .ok (l, warnings)

/-- An address is written in a way that can be read. -/
def Url.Parses (u : Url) : Prop := ∃ v, Url.parse u.text = .ok v

/-- Whatever else is in an entry, an address and a title suffice. -/
theorem WebLink.EntryForm.read_of_object {entry : Json} {raw title : String} {u : Url}
    (hraw : entry.stringAt (.ofKeys ["object", "url"]) = .ok raw) (hparse : Url.parse raw = .ok u)
    (htitle : entry.stringAt (.ofKeys ["object", "title"]) = .ok title) :
    ∃ l warnings, read entry = .ok (l, warnings) := by
  simp only [read, hraw, hparse, htitle, bind, Except.bind]
  exact ⟨_, _, rfl⟩

/-- The entry of a link can be read when its address can. -/
theorem LegibleEntry.numbered {l : WebLink} (h : l.uri.Parses) (number : Json) : LegibleEntry (numbered l number) := by
  intro _
  obtain ⟨u, hparse⟩ := h
  have hobject : (WebLink.EntryForm.numbered l number).get? "object" = (render l).get? "object" := by
    rw [Json.get?_of_set? (WebLink.EntryForm.set?_render l number), if_neg (by decide)]
  have hstring {key text : String} (hkey : Json.index? key = none)
      (htext : (WebLink.EntryForm.renderObject l).get? key = some (.str text)) :
      (WebLink.EntryForm.numbered l number).stringAt (.ofKeys ["object", key]) = .ok text := by
    rw [Json.stringAt_congr (by decide) hobject]
    rw [Json.stringAt_eq_ok_iff]
    rw [WebLink.EntryForm.pointer_render_object, Json.follow_cons hkey, htext]
    simp
  have hraw : (WebLink.EntryForm.renderObject l).get? "url" = some (.str l.uri.text) := by
    rw [WebLink.EntryForm.get?_renderObject]
    simp
  have htitle : (WebLink.EntryForm.renderObject l).get? "title" = some (.str l.title) := by
    rw [WebLink.EntryForm.get?_renderObject]
    simp
  exact WebLink.EntryForm.read_of_object (hstring (by decide) hraw) hparse (hstring (by decide) htitle)

end IssueTracker
