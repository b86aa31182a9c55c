import IssueTracker.Proofs.Operation.Asks
import IssueTracker.Proofs.Property.ReadBack
import IssueTracker.Proofs.Tracker.Scope
import IssueTracker.Proofs.Workflow.Steps
/-!
# What actions leave alone

Every action has a part of the tracker that is its own, and touches nothing else, whether it succeeds or not.
What it writes there is what a snapshot shows that is fetched afterwards.
-/

namespace IssueTracker

open Tracker (Scope SameBut Filed fieldOf? updatedStamp)

namespace Action

/-! ## Scopes -/

/-- A field of the issue and its time of change. -/
def fieldScope (s : Snapshot) (field : String) : Scope := { fields := [(s.id, field), (s.id, "updated")] }

/-- The part of the tracker that an action may change. -/
def scope (p : Project) (s : Snapshot) : Action → Scope
  | setTitle _ => fieldScope s "summary"
  | setBody _ => fieldScope s "description"
  | addLabel _ | removeLabel _ | setLabels _ => fieldScope s "labels"
  | setProperty name _ => ((p.codec.byProperty? name).map fun m => fieldScope s m.field).getD {}
  | setAssignees _ => { fields := [(s.id, "assignee")] }
  | setState _ => { fields := [(s.id, "status")] }
  | addComment _ | updateComment _ _ | removeComment _ => { comments := [s.id] }
  | addLink (.web _) => if p.isRestricted then { comments := [s.id] } else { remoteLinks := [s.id] }
  | addLink (.issue target _) => { fields := [(s.id, "issuelinks"), (target.id, "issuelinks")] }
  | removeLink (.web _) => { comments := [s.id], remoteLinks := [s.id] }
  | comments | labels | links | closedBy | removeLink (.issue _ _) | removeProperty => {}

section Bounds

variable {p : Project} {s : Snapshot} (hs : '/' ∉ s.id.toList)
include hs

theorem bounds_fieldsQuery (field : String) (value : Json) :
    (fieldScope s field).Bounds (.put s.path (Snapshot.fieldsQuery field value)) :=
  Scope.bounds_issue hs rfl fun issue => SameBut.fieldsQuery (by simp [fieldScope]) (by simp [fieldScope]) value

theorem bounds_labelsQuery (operation : String) (operand : Json) :
    (fieldScope s "labels").Bounds (.put s.path (Snapshot.labelsQuery operation operand)) :=
  Scope.bounds_issue hs rfl fun issue => SameBut.labelsQuery (by simp [fieldScope]) (by simp [fieldScope]) _ _

omit hs in
/-- A link is stored with no other issues than the two. -/
theorem bounds_issueLinkDocument (t : LinkType) (d : Direction) (target : Snapshot) (relationship : String) :
    ((addLink (.issue target relationship)).scope p s).Bounds
      (.post "issueLink" (s.issueLinkDocument t d target.id)) := by
  refine Scope.bounds_issueLink rfl rfl fun key hkey => ?_
  cases d <;>
    simpa (disch := decide) [scope, Tracker.linkEnd, Tracker.bodyOf, Request.post, Snapshot.issueLinkDocument,
      Project.issueLinkDocument, Json.pointer_ofKeys, Json.follow_cons, Json.get?_ofMembers, Json.asString?,
      or_comm] using hkey

/-- Every request of an action stays in its scope. Which field a property has is known to the action alone. -/
theorem bounds_of_asks {a : Action} {r : Request} (h : a.Asks p s r)
    (hproperty : ∀ name value, a ≠ setProperty name value) : (a.scope p s).Bounds r := by
  cases h with
  | read hmethod hbody => exact Scope.bounds_read hmethod
  | title hrole => exact bounds_fieldsQuery hs _ _
  | description hrole => exact bounds_fieldsQuery hs _ _
  | newComment => exact Scope.bounds_comments hs rfl List.mem_cons_self
  | comment => exact Scope.bounds_comment hs rfl List.mem_cons_self
  | noComment => exact Scope.bounds_comment hs rfl List.mem_cons_self
  | transition => exact Scope.bounds_transitions hs rfl List.mem_cons_self
  | labels hchange =>
    cases a with
    | addLabel label => exact bounds_labelsQuery hs _ _
    | removeLabel label => exact bounds_labelsQuery hs _ _
    | setLabels names => exact bounds_labelsQuery hs _ _
    | _ => cases hchange
  | assignee => exact Scope.bounds_assignee hs rfl rfl List.mem_cons_self
  | linkComment hrole =>
    refine Scope.bounds_comments hs rfl ?_
    simp [scope, Project.isRestricted, Option.isSome_iff_ne_none, hrole]
  | remoteLink hrole =>
    refine Scope.bounds_remoteLinks hs rfl ?_
    simp [scope, Project.isRestricted, hrole]
  | issueLink => exact bounds_issueLinkDocument _ _ _ _
  | noRemoteLink => exact Scope.bounds_remoteLinks hs rfl List.mem_cons_self
  | noLinkComment => exact Scope.bounds_comment hs rfl List.mem_cons_self
  | property hm => exact absurd rfl (hproperty _ _)

theorem bounds_setProperty (name : String) (value : Json) :
    (s.setProperty p name value).Sends ((setProperty name value).scope p s).Bounds := by
  rw [Snapshot.setProperty, PropertyCodec.encode?, scope]
  cases p.codec.byProperty? name with
  | none => trivial
  | some m => exact Program.sends_warnAll (Program.sends_perform (bounds_fieldsQuery hs m.field _))

/-- An action touches nothing outside its scope. -/
theorem covers_after (p : Project) (a : Action) (w : World) :
    (a.scope p s).Covers w.tracker (w.after (a.program p s)).tracker := by
  refine World.covers_after ?_ w
  by_cases h : ∃ name value, a = setProperty name value
  · obtain ⟨name, value, rfl⟩ := h
    exact bounds_setProperty hs name value
  · refine (sends_asks p s a).mono fun r hasks => bounds_of_asks hs hasks fun name value heq => h ⟨name, value, heq⟩

end Bounds

end Action

/-! ## What is fetched afterwards -/

namespace World

variable {w : World} {s s' : Snapshot} {issue : Json}

/-- A field that is written is what a fetch gives back. -/
theorem fetched_after_update (hw : w.tracker.Reachable) (hs : '/' ∉ s.id.toList)
    (hstored : Table.get? s.id w.tracker.issues = some issue) (field : String) (value : Json) :
    let written := s.update (Snapshot.fieldsQuery field value)
    w.result written = .ok () ∧ ∃ changed, Filed s.id changed ∧
      (∀ other, fieldOf? changed other = if other = "updated" then some (.str updatedStamp)
        else if other = field then some value else fieldOf? issue other) ∧
      ∀ s', (w.after written).result (Project.issue s.id) = .ok (some s') ↔ Snapshot.ofJson changed = .ok s' := by
  intro written
  obtain ⟨changed, hchange, hfiled, hfields⟩ :=
    Tracker.changeIssue_fieldsQuery (hw.orderly.filed _ _ hstored) field value
  obtain ⟨hresult, hafter⟩ := update_stored hs hstored hchange
  refine ⟨hresult, changed, hfiled, hfields, fun s' => result_issue_stored (hw.after written).orderly hs ?_⟩
  rw [hafter]
  exact Table.get?_insert_self _ _ _

/-- What was fetched before is fetched again, unless the title or the status changed. -/
theorem describes_again {changed : Json} {s₀ : Snapshot} (hw : w.tracker.Reachable) (hs : '/' ∉ s.id.toList)
    (hstored : Table.get? s.id w.tracker.issues = some issue) (hfiled : Filed s.id changed)
    (hkept : ∀ field ∈ ["summary", "status"], fieldOf? changed field = fieldOf? issue field)
    (hs₀ : w.result (Project.issue s.id) = .ok (some s₀)) : ∃ s', Snapshot.ofJson changed = .ok s' :=
  Snapshot.ofJson_congr ((result_issue_stored hw.orderly hs hstored).1 hs₀)
    (hfiled.key.trans (hw.orderly.filed _ _ hstored).key.symm) hkept

/-- The title that is set is shown without the blanks around it. -/
theorem setTitle_read_back (hw : w.tracker.Reachable) (hs : s.On w.tracker) {status : String}
    (hstatus : w.tracker.status? s.id = some status) {p : Project} (hrole : p.visibilityRole = none) (title : String) :
    w.result (s.setTitle p title) = .ok () ∧
      ∃ s', (w.after (s.setTitle p title)).result (Project.issue s.id) = .ok (some s') ∧
        s'.title = Text.trim title := by
  obtain ⟨issue, hstored, hpointer⟩ := Tracker.status?_eq_some hstatus
  have hprogram : s.setTitle p title = s.update (Snapshot.fieldsQuery "summary" (.str title)) := by
    simp [Snapshot.setTitle, Project.isRestricted, hrole]
  obtain ⟨hresult, changed, hfiled, hfields, hfetch⟩ :=
    fetched_after_update hw hs.slashFree hstored "summary" (.str title)
  have hname : (fieldOf? changed "status").bind (Json.get? "name") = some (.str status) := by
    rw [hfields, if_neg (by decide), if_neg (by decide), ← hpointer, Tracker.pointer_field (by decide)]
    congr 1
    funext value
    rw [Json.follow_cons (by decide), Json.follow_nil, Option.bind_fun_some]
  rw [hprogram]
  refine ⟨hresult, _, (hfetch _).2 (Snapshot.ofJson_eq_ok.2 ⟨s.id, title, status, hfiled.key, ?_, hname, rfl⟩), rfl⟩
  rw [hfields, if_neg (by decide), if_pos rfl]

/-- The description that is set is shown as it is. -/
theorem setBody_read_back (hw : w.tracker.Reachable) (hs : s.On w.tracker) {p : Project}
    (hrole : p.visibilityRole = none) (body : String) :
    w.result (s.setBody p body) = .ok () ∧
      (∀ s', (w.after (s.setBody p body)).result (Project.issue s.id) = .ok (some s') → s'.body = body) ∧
      ∀ s₀, w.result (Project.issue s.id) = .ok (some s₀) →
        ∃ s', (w.after (s.setBody p body)).result (Project.issue s.id) = .ok (some s') := by
  obtain ⟨issue, hstored⟩ := Option.isSome_iff_exists.1 hs.known
  have hprogram : s.setBody p body = s.update (Snapshot.fieldsQuery "description" (.str body)) := by
    simp [Snapshot.setBody, Project.isRestricted, hrole]
  obtain ⟨hresult, changed, hfiled, hfields, hfetch⟩ :=
    fetched_after_update hw hs.slashFree hstored "description" (.str body)
  rw [hprogram]
  refine ⟨hresult, fun s' hs' => ?_, fun s₀ hs₀ => ?_⟩
  · obtain rfl := Snapshot.document_of_ofJson ((hfetch s').1 hs')
    have hdescription : s'.document.pointer (.ofKeys ["fields", "description"]) = some (.str body) := by
      rw [Tracker.pointer_field (by decide), hfields, if_neg (by decide), if_pos rfl]
      rfl
    rw [Snapshot.body, Json.stringAt?, hdescription]
    rfl
  · have hkept : ∀ field ∈ ["summary", "status"], fieldOf? changed field = fieldOf? issue field := by
      intro field hfield
      rw [hfields, if_neg (by rintro rfl; exact absurd hfield (by decide)),
        if_neg (by rintro rfl; exact absurd hfield (by decide))]
    obtain ⟨s', hs'⟩ := describes_again hw hs.slashFree hstored hfiled hkept hs₀
    exact ⟨s', (hfetch s').2 hs'⟩

/-- The document of who works on an issue. -/
def assigneeOf (user? : Option User) : Json :=
  (user?.map fun user =>
    Json.ofMembers [("name", .str user.id), ("displayName", .str (Tracker.displayName user.id))]).getD .null

/-- Nobody or one user is assigned, and a fetch gives them back. -/
theorem fetched_after_assign (hw : w.tracker.Reachable) (hs : '/' ∉ s.id.toList)
    (hstored : Table.get? s.id w.tracker.issues = some issue) (user? : Option User) :
    let assigned := s.setAssignees user?.toList
    w.result assigned = .ok () ∧ ∃ changed, Filed s.id changed ∧
      (∀ other, fieldOf? changed other = if other = "assignee" then some (assigneeOf user?) else fieldOf? issue other) ∧
      ∀ s', (w.after assigned).result (Project.issue s.id) = .ok (some s') ↔ Snapshot.ofJson changed = .ok s' := by
  intro assigned
  have hfiled := hw.orderly.filed _ _ hstored
  obtain ⟨changed, hset⟩ := hfiled.withField? "assignee" (assigneeOf user?)
  let name : Json := (user?.map fun user => Json.str user.id).getD .null
  let r : Request := .put (s.path ++ "/assignee") (.ofMembers [("name", name)])
  have hprogram : assigned = Program.perform r := by cases user? <;> rfl
  have hnoted : Table.get? s.id (w.tracker.noted r).issues = some issue := hstored
  have hrespond : w.tracker.respond r = ((w.tracker.noted r).putIssue s.id changed, Tracker.accepted) := by
    rw [s.respond_assignee hs w.tracker rfl rfl]
    have hname : (Tracker.bodyOf r).get? "name" = some name := by
      simp [Tracker.bodyOf, r, Request.put, Json.get?_ofMembers]
    unfold Tracker.assigneeRoute
    simp only [hnoted, hname, Option.bind_some]
    cases user? with
    | none =>
      have hset : Tracker.withField? "assignee" .null issue = some changed := hset
      simp only [name, Option.map_none, Option.getD_none, Json.asString?, hset]
    | some user =>
      have hset : Tracker.withField? "assignee"
          (.ofMembers [("name", .str user.id), ("displayName", .str (Tracker.displayName user.id))]) issue =
            some changed := hset
      simp only [name, Option.map_some, Option.getD_some, Json.asString?, hset]
  have hafter : (w.after assigned).tracker = (w.tracker.noted r).putIssue s.id changed := by
    rw [hprogram, after_perform, answered, hrespond]
  refine ⟨?_, changed, Filed.setting _ _ _ _ _ hfiled hset, fun other => Tracker.fieldOf?_withField? hset other,
    fun s' => result_issue_stored (hw.after assigned).orderly hs ?_⟩
  · rw [hprogram, result_perform, hrespond]
    rfl
  · rw [hafter]
    exact Table.get?_insert_self _ _ _

/-- Who is assigned is shown under the name that the tracker has for the account. -/
theorem setAssignees_read_back (hw : w.tracker.Reachable) (hs : s.On w.tracker) (user? : Option User) :
    w.result (s.setAssignees user?.toList) = .ok () ∧
      (∀ s', (w.after (s.setAssignees user?.toList)).result (Project.issue s.id) = .ok (some s') →
        s'.assignees = user?.toList.map fun user => .ofAccount user.id (Tracker.displayName user.id)) ∧
      ∀ s₀, w.result (Project.issue s.id) = .ok (some s₀) →
        ∃ s', (w.after (s.setAssignees user?.toList)).result (Project.issue s.id) = .ok (some s') := by
  obtain ⟨issue, hstored⟩ := Option.isSome_iff_exists.1 hs.known
  obtain ⟨hresult, changed, hfiled, hfields, hfetch⟩ := fetched_after_assign hw hs.slashFree hstored user?
  refine ⟨hresult, fun s' hs' => ?_, fun s₀ hs₀ => ?_⟩
  · obtain rfl := Snapshot.document_of_ofJson ((hfetch s').1 hs')
    have hassignee : s'.document.pointer (.ofKeys ["fields", "assignee"]) = some (assigneeOf user?) := by
      rw [Tracker.pointer_field (by decide), hfields, if_pos rfl]
      rfl
    rw [Snapshot.assignees, hassignee]
    cases user? with
    | none => rfl
    | some user => simp [assigneeOf, Json.get?_ofMembers, Json.asString?]
  · have hkept : ∀ field ∈ ["summary", "status"], fieldOf? changed field = fieldOf? issue field := by
      intro field hfield
      rw [hfields, if_neg (by rintro rfl; exact absurd hfield (by decide))]
    obtain ⟨s', hs'⟩ := describes_again hw hs.slashFree hstored hfiled hkept hs₀
    exact ⟨s', (hfetch s').2 hs'⟩

end World

/-! ## Every action changes its own part -/

/-- An action changes its own part of the tracker and nothing else, however it ends. Where comments are not
restricted, the title, the description and the assignee that are set are those that a fetch shows from then on. -/
theorem Action.changes_own_part (p : Project) {w : World} {s : Snapshot} (hs : s.On w.tracker) {status : String}
    (hstatus : w.tracker.status? s.id = some status) :
    (∀ a : Action, (a.scope p s).Covers w.tracker (w.after (a.program p s)).tracker) ∧
      (w.tracker.Reachable → p.visibilityRole = none →
        (∀ title, w.result (s.setTitle p title) = .ok () ∧
          ∃ s', (w.after (s.setTitle p title)).result (Project.issue s.id) = .ok (some s') ∧
            s'.title = Text.trim title) ∧
        (∀ body, w.result (s.setBody p body) = .ok () ∧
          (∀ s', (w.after (s.setBody p body)).result (Project.issue s.id) = .ok (some s') → s'.body = body) ∧
          ∀ s₀, w.result (Project.issue s.id) = .ok (some s₀) →
            ∃ s', (w.after (s.setBody p body)).result (Project.issue s.id) = .ok (some s')) ∧
        ∀ user? : Option User, w.result (s.setAssignees user?.toList) = .ok () ∧
          (∀ s', (w.after (s.setAssignees user?.toList)).result (Project.issue s.id) = .ok (some s') →
            s'.assignees = user?.toList.map fun user => .ofAccount user.id (Tracker.displayName user.id)) ∧
          ∀ s₀, w.result (Project.issue s.id) = .ok (some s₀) →
            ∃ s', (w.after (s.setAssignees user?.toList)).result (Project.issue s.id) = .ok (some s')) :=
  ⟨fun a => covers_after hs.slashFree p a w, fun hw hrole =>
    ⟨World.setTitle_read_back hw hs hstatus hrole, World.setBody_read_back hw hs hrole,
      World.setAssignees_read_back hw hs⟩⟩

/-- The title of an issue is set, and nothing but its title and its time of change. -/
theorem Action.changes_own_part_of_ofIssue :
    let p : Project := ⟨.repository, none, .standard⟩
    let w : World := ⟨.ofIssue "X-1" "Open" [], none⟩
    let s := Snapshot.ofIssue "X-1" "Open"
    s.On w.tracker ∧ w.tracker.status? s.id = some "Open" ∧ w.tracker.Reachable ∧
      (fieldScope s "summary").Covers w.tracker (w.after (s.setTitle p "  Crash ")).tracker ∧
      ∃ s', (w.after (s.setTitle p "  Crash ")).result (Project.issue s.id) = .ok (some s') ∧ s'.title = "Crash" := by
  intro p w s
  have hs : s.On w.tracker := ⟨by decide, by decide +kernel⟩
  have hstatus : w.tracker.status? s.id = some "Open" := by decide +kernel
  have hw : w.tracker.Reachable := Tracker.reachable_ofIssue "X-1" "Open" []
  obtain ⟨hcovers, hshown⟩ := changes_own_part p hs hstatus
  obtain ⟨-, s', hs', htitle⟩ := (hshown hw rfl).1 "  Crash "
  have htrim : Text.trim "  Crash " = "Crash" := by decide +kernel
  exact ⟨hs, hstatus, hw, hcovers (.setTitle "  Crash "), s', hs', htitle.trans htrim⟩

end IssueTracker
