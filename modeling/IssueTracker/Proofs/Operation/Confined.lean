import IssueTracker.Proofs.Operation.Asks
import IssueTracker.Proofs.Link.Listing
/-!
# Nothing leaves the restriction

In a project that restricts comments to a role, nothing that an action writes can be read by
others: comments carry the restriction, web links become comments, and titles and descriptions are
left alone. In a project without a role nothing is restricted. Nothing is assumed of the answers.
-/

namespace IssueTracker

variable {σ : Type}

/-! ## Runs -/

/-- The requests of actions that are taken in turn, whether they succeed or not. -/
def Project.requests (p : Project) (respond : Program.Responder σ) :
    List (Snapshot × Action) → σ → Option (List LinkType) → List Request
  | [], _, _ => []
  | (s, a) :: rest, st, memory =>
    let o := (a.program p s).run respond st memory
    o.calls ++ p.requests respond rest o.state o.memory

/-- Every request of a run is one that some action on the way may make. -/
theorem Project.asks_of_requests (p : Project) (respond : Program.Responder σ) {acts : List (Snapshot × Action)}
    {st : σ} {memory : Option (List LinkType)} {r : Request} (hr : r ∈ p.requests respond acts st memory) :
    ∃ act ∈ acts, act.2.Asks p act.1 r := by
  induction acts generalizing st memory with
  | nil => simp [requests] at hr
  | cons act rest ih =>
    rcases List.mem_append.1 hr with hr | hr
    · exact ⟨act, List.mem_cons_self, Program.calls_of_sends respond (Action.sends_asks p act.1 act.2) _ _ r hr⟩
    · obtain ⟨act', hact', hasks⟩ := ih hr
      exact ⟨act', List.mem_cons_of_mem _ hact', hasks⟩

/-! ## Places -/

namespace Request

/-- A request about the comments of some issue. -/
def OnComments (r : Request) : Prop := ∃ id rest, Text.split '/' r.path = "issue" :: id :: "comment" :: rest

/-- A request about the remote links of some issue. -/
def OnRemoteLinks (r : Request) : Prop := ∃ id rest, Text.split '/' r.path = "issue" :: id :: "remotelink" :: rest

/-- A request that writes. -/
def Writes (r : Request) : Prop := r.method = .post ∨ r.method = .put

/-- No document is sent that has a member. -/
def Omits (r : Request) (keys : List String) : Prop :=
  ∀ body, r.body = some body → body.pointer (.ofKeys keys) = none

/-- What a request may be where comments are restricted to a role. -/
structure Confined (role : String) (r : Request) : Prop where
  comments : r.Writes → r.OnComments →
    ∃ body, r.body = some body ∧ body.get? "visibility" = some (CommentStore.restriction role)
  remoteLinks : r.method = .post → ¬ r.OnRemoteLinks
  title : r.Omits ["fields", "summary"]
  description : r.Omits ["fields", "description"]

theorem omits_of_none {r : Request} (h : r.body = none) (keys : List String) : r.Omits keys := by
  intro body hbody
  rw [h] at hbody
  cases hbody

theorem omits_of_get? {r : Request} {doc : Json} {key : String} (hkey : Json.index? key = none)
    (hr : r.body = some doc) (h : doc.get? key = none) (keys : List String) : r.Omits (key :: keys) := by
  intro body hbody
  obtain rfl := Option.some.inj (hr.symm.trans hbody)
  rw [Json.pointer_ofKeys, Json.follow_cons hkey, h]
  rfl

variable {r : Request} {segments : List String}

theorem not_onComments (h : Text.split '/' r.path = segments) (hpart : segments[2]? ≠ some "comment") :
    ¬ r.OnComments := by
  rintro ⟨id, rest, hsplit⟩
  obtain rfl := h.symm.trans hsplit
  exact hpart rfl

theorem not_onRemoteLinks (h : Text.split '/' r.path = segments) (hpart : segments[2]? ≠ some "remotelink") :
    ¬ r.OnRemoteLinks := by
  rintro ⟨id, rest, hsplit⟩
  obtain rfl := h.symm.trans hsplit
  exact hpart rfl

/-- What is sent to another place is confined where it has no fields of an issue. -/
theorem Confined.of_elsewhere {role : String} {doc : Json} (h : Text.split '/' r.path = segments)
    (hcomment : segments[2]? ≠ some "comment") (hremote : segments[2]? ≠ some "remotelink")
    (hr : r.body = some doc) (hfields : doc.get? "fields" = none) : r.Confined role where
  comments _ hon := absurd hon (not_onComments h hcomment)
  remoteLinks _ := not_onRemoteLinks h hremote
  title := omits_of_get? (by decide) hr hfields _
  description := omits_of_get? (by decide) hr hfields _

/-- What sends no document is confined. -/
theorem Confined.of_none {role : String} (hmethod : ¬ r.Writes) (hr : r.body = none) : r.Confined role where
  comments hwrites := absurd hwrites hmethod
  remoteLinks hpost := absurd (.inl hpost) hmethod
  title := omits_of_none hr _
  description := omits_of_none hr _

end Request

/-! ## Documents -/

/-- A change of one field has no other. -/
theorem Snapshot.pointer_fieldsQuery (field key : String) (value : Json) (hkey : Json.index? key = none) :
    (fieldsQuery field value).pointer (.ofKeys ["fields", key]) = if key = field then some value else none := by
  rw [Json.pointer_ofKeys, Json.follow_cons (by decide), fieldsQuery, Json.get?_ofMembers]
  simp [Json.follow_cons hkey, Json.get?_ofMembers]

/-- A restricted body carries the restriction. -/
theorem CommentStore.get?_bodyDocument_visibility (store : CommentStore) (body : String) :
    (store.bodyDocument body).get? "visibility" = store.role.map restriction := by
  rw [bodyDocument, Json.get?_ofMembers]
  cases store.role <;> simp

theorem CommentStore.get?_bodyDocument_fields (store : CommentStore) (body : String) :
    (store.bodyDocument body).get? "fields" = none := by
  rw [bodyDocument, Json.get?_ofMembers]
  cases store.role <;> simp

theorem WebLink.EntryForm.get?_render_visibility (l : WebLink) : (render l).get? "visibility" = none := by
  rw [render, Json.get?_ofMembers, Table.get?_ofEntries_append, get?_optional]
  simp

/-- The document of a link between issues has three members. -/
theorem Snapshot.get?_issueLinkDocument (s : Snapshot) (t : LinkType) (d : Direction) (target : String) {key : String}
    (hkey : key ∉ ["type", "inwardIssue", "outwardIssue"]) : (s.issueLinkDocument t d target).get? key = none := by
  simp only [List.mem_cons, List.not_mem_nil, or_false, not_or] at hkey
  obtain ⟨htype, hinward, houtward⟩ := hkey
  cases d <;> simp [issueLinkDocument, Project.issueLinkDocument, Json.get?_ofMembers, htype, hinward, houtward]

/-- No field is written but those of the properties, the standard ones among them. -/
theorem PropertyCodec.field_ne {custom : List FieldMapping} {field : String}
    (hstandard : ∀ m ∈ standard, m.field ≠ field) (hcustom : ∀ m ∈ custom, m.field ≠ field) :
    ∀ m ∈ withCustom custom, m.field ≠ field := by
  intro m hm
  rcases List.mem_append.1 hm with hm | hm
  · exact hstandard m hm
  · exact hcustom m hm

/-! ## Requests of an action -/

namespace Action.Asks

variable {p : Project} {s : Snapshot} {a : Action} {r : Request}

/-- Comments are written with what the project restricts them to. -/
theorem confined_comment {role : String} (hrole : p.visibilityRole = some role) {r : Request}
    {rest : List String} (hsplit : Text.split '/' r.path = "issue" :: s.id :: "comment" :: rest) {text : String}
    (hr : r.body = some ((s.commentStore p).bodyDocument text)) : r.Confined role where
  comments _ _ := ⟨_, hr, by rw [CommentStore.get?_bodyDocument_visibility, Snapshot.commentStore, hrole]; rfl⟩
  remoteLinks _ := Request.not_onRemoteLinks hsplit (by simp)
  title := Request.omits_of_get? (by decide) hr (CommentStore.get?_bodyDocument_fields _ _) _
  description := Request.omits_of_get? (by decide) hr (CommentStore.get?_bodyDocument_fields _ _) _

/-- In a restricted project every request of an action is confined. -/
theorem confined {role : String} (hrole : p.visibilityRole = some role) (hs : '/' ∉ s.id.toList)
    (hcodec : ∀ m ∈ p.codec, m.field ≠ "summary" ∧ m.field ≠ "description") (h : a.Asks p s r) : r.Confined role := by
  have hpath := s.split_path hs
  have hcomments : Text.split '/' (s.path ++ "/comment") = ["issue", s.id, "comment"] :=
    s.split_part hs (by simp) (by decide)
  have htransitions : Text.split '/' (s.path ++ "/transitions") = ["issue", s.id, "transitions"] :=
    s.split_part hs (by simp) (by decide)
  have hassignee : Text.split '/' (s.path ++ "/assignee") = ["issue", s.id, "assignee"] :=
    s.split_part hs (by simp) (by decide)
  cases h with
  | read hmethod hbody => exact .of_none (by simp [Request.Writes, hmethod]) hbody
  | title hnone | description hnone | remoteLink hnone => simp [hrole] at hnone
  | newComment => exact confined_comment hrole hcomments rfl
  | comment => exact confined_comment hrole (s.split_commentPath hs _ _) rfl
  | linkComment => exact confined_comment hrole hcomments rfl
  | noComment | noRemoteLink | noLinkComment => exact .of_none (by rintro (h | h) <;> cases h) rfl
  | transition =>
    exact .of_elsewhere htransitions (by simp) (by simp) rfl
      (by simp [Workflow.Drive.transitionBody, Json.get?_ofMembers])
  | labels => exact .of_elsewhere hpath (by simp) (by simp) rfl (by simp [Snapshot.labelsQuery, Json.get?_ofMembers])
  | assignee => exact .of_elsewhere hassignee (by simp) (by simp) rfl (by simp [Json.get?_ofMembers])
  | issueLink =>
    have hsplit : Text.split '/' "issueLink" = ["issueLink"] := by decide
    exact .of_elsewhere hsplit (by simp) (by simp) rfl (s.get?_issueLinkDocument _ _ _ (by decide))
  | @property _ _ m hm shaped =>
    -- A property has its own field, which is none of the two.
    obtain ⟨hsummary, hdescription⟩ := hcodec m hm
    refine ⟨fun _ hon => absurd hon (Request.not_onComments hpath (by simp)),
      fun _ => Request.not_onRemoteLinks hpath (by simp), ?_, ?_⟩
    · rintro _ ⟨⟩
      rw [Snapshot.pointer_fieldsQuery _ _ _ (by decide), if_neg hsummary.symm]
    · rintro _ ⟨⟩
      rw [Snapshot.pointer_fieldsQuery _ _ _ (by decide), if_neg hdescription.symm]

/-- In a project without a role no document that is sent asks for a restriction. -/
theorem unrestricted (hrole : p.visibilityRole = none) (h : a.Asks p s r) : r.Omits ["visibility"] := by
  have hcomment (text : String) : ((s.commentStore p).bodyDocument text).get? "visibility" = none := by
    rw [CommentStore.get?_bodyDocument_visibility, Snapshot.commentStore, hrole]
    rfl
  have homits := fun {r : Request} {doc : Json} (hr : r.body = some doc) (hdoc : doc.get? "visibility" = none) =>
    Request.omits_of_get? (by decide : Json.index? "visibility" = none) hr hdoc []
  cases h with
  | read hmethod hbody => exact Request.omits_of_none hbody _
  | title | description | property =>
    exact homits rfl (by simp [Snapshot.fieldsQuery, Json.get?_ofMembers])
  | newComment | comment | linkComment => exact homits rfl (hcomment _)
  | noComment | noRemoteLink | noLinkComment => exact Request.omits_of_none rfl _
  | transition => exact homits rfl (by simp [Workflow.Drive.transitionBody, Json.get?_ofMembers])
  | labels => exact homits rfl (by simp [Snapshot.labelsQuery, Json.get?_ofMembers])
  | assignee => exact homits rfl (by simp [Json.get?_ofMembers])
  | remoteLink => exact homits rfl (WebLink.EntryForm.get?_render_visibility _)
  | issueLink => exact homits rfl (s.get?_issueLinkDocument _ _ _ (by decide))

/-- In a project without a role a web link is posted to the remote links only. -/
theorem offComments {l : WebLink} (hrole : p.visibilityRole = none) (hs : '/' ∉ s.id.toList)
    (h : (Action.addLink (.web l)).Asks p s r) (hpost : r.method = .post) : ¬ r.OnComments := by
  cases h with
  | read hmethod => simp [hmethod] at hpost
  | labels h => cases h
  | linkComment hsome => exact absurd hrole hsome
  | remoteLink =>
    have hsplit : Text.split '/' (RemoteLinks.mk s.path).path = ["issue", s.id, "remotelink"] :=
      s.split_part hs (by simp) (by decide)
    exact Request.not_onComments hsplit (by simp)

end Action.Asks

/-! ## Requests of a run -/

/-- Whatever is done with issues and whatever is answered: in a project that restricts comments to
a role every comment that is written carries the restriction, no remote link is written, and
neither is a title or a description, while setting them succeeds. In a project without a role
nothing that is written asks for a restriction, and no web link becomes a comment. -/
theorem Project.requests_confined {p : Project} {custom : List FieldMapping} (hcodec : p.codec = .withCustom custom)
    (hcustom : ∀ m ∈ custom, m.field ≠ "summary" ∧ m.field ≠ "description") (respond : Program.Responder σ)
    {acts : List (Snapshot × Action)} (hacts : ∀ act ∈ acts, '/' ∉ act.1.id.toList) (st : σ)
    (memory : Option (List LinkType)) :
    (∀ role, p.visibilityRole = some role →
      (∀ r ∈ p.requests respond acts st memory, r.Confined role) ∧
      ∀ (s : Snapshot) (text : String) (st : σ) (memory : Option (List LinkType)),
        ∀ program ∈ [s.setTitle p text, s.setBody p text],
          (program.run respond st memory).calls = [] ∧ (program.run respond st memory).result = .ok ()) ∧
    (p.visibilityRole = none →
      (∀ r ∈ p.requests respond acts st memory, r.Omits ["visibility"]) ∧
      ∀ (s : Snapshot), '/' ∉ s.id.toList → ∀ (l : WebLink) (st : σ) (memory : Option (List LinkType)),
        ∀ r ∈ ((s.addLink p (.web l)).run respond st memory).calls, r.method = .post → ¬ r.OnComments) := by
  have hfields : ∀ m ∈ p.codec, m.field ≠ "summary" ∧ m.field ≠ "description" := by
    rw [hcodec]
    intro m hm
    exact ⟨PropertyCodec.field_ne (by decide) (fun m hm => (hcustom m hm).1) m hm,
      PropertyCodec.field_ne (by decide) (fun m hm => (hcustom m hm).2) m hm⟩
  refine ⟨fun role hrole => ⟨?_, ?_⟩, fun hrole => ⟨?_, ?_⟩⟩
  · intro r hr
    obtain ⟨act, hact, hasks⟩ := p.asks_of_requests respond hr
    exact hasks.confined hrole (hacts act hact) hfields
  · intro s text st memory program hprogram
    have hrestricted : p.isRestricted = true := by simp [Project.isRestricted, hrole]
    simp only [Snapshot.setTitle, Snapshot.setBody, if_pos hrestricted, List.mem_cons, List.not_mem_nil,
      or_false] at hprogram
    rcases hprogram with rfl | rfl <;> exact ⟨rfl, rfl⟩
  · intro r hr
    obtain ⟨act, -, hasks⟩ := p.asks_of_requests respond hr
    exact hasks.unrestricted hrole
  · intro s hs l st memory r hr
    have hasks := Program.calls_of_sends respond (Action.sends_asks p s (.addLink (.web l))) st memory r hr
    exact hasks.offComments hrole hs

/-- A project that restricts comments, with a field of its own. -/
def Project.developersOnly : Project :=
  ⟨.repository, some "Developers", .withCustom [⟨"team", "customfield_1", .select⟩]⟩

/-- A comment and a web link are both posted as comments. -/
theorem Project.requests_confined_developersOnly :
    let s := Snapshot.ofIssue "X-1" "Open"
    let acts := [(s, Action.addComment "Done."), (s, .addLink (.web .mirror)), (s, .setTitle "Title")]
    let requests := developersOnly.requests Program.scripted acts [.ok .null, .ok .null, .ok .null] none
    requests.map Request.line = ["POST issue/X-1/comment", "GET issue/X-1/comment", "POST issue/X-1/comment"] ∧
      ∀ r ∈ requests, r.Confined "Developers" := by
  intro s acts requests
  have hcustom : ∀ m ∈ [(⟨"team", "customfield_1", .select⟩ : FieldMapping)],
      m.field ≠ "summary" ∧ m.field ≠ "description" := by decide
  have hacts : ∀ act ∈ acts, '/' ∉ act.1.id.toList := by decide
  exact ⟨by decide +kernel,
    ((requests_confined (p := developersOnly) rfl hcustom Program.scripted hacts _ none).1 "Developers" rfl).1⟩

end IssueTracker
