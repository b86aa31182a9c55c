import IssueTracker.Proofs.Operation.ReadBack
import IssueTracker.Proofs.Property.Codec
/-!
# What is set is read back

Setting a property of an issue sets one field of its document. Fetched again, the issue has the value that
the field keeps of it, and all its other properties are what they were.
-/

namespace IssueTracker

open Tracker (Filed changeIssue accepted fieldOf? updatedStamp)
open Snapshot (fieldsQuery)

/-- A change of one field is accepted, and sets the time of change besides. -/
theorem Tracker.changeIssue_fieldsQuery {key : String} {issue : Json} (h : Filed key issue) (field : String)
    (value : Json) : ∃ changed, changeIssue (fieldsQuery field value) issue = (changed, accepted) ∧
      Filed key changed ∧ ∀ other, fieldOf? changed other =
        if other = "updated" then some (.str updatedStamp)
        else if other = field then some value
        else fieldOf? issue other := by
  obtain ⟨fielded, hfielded⟩ := h.withField? field value
  have h' : Filed key fielded := .setting key field value issue fielded h hfielded
  obtain ⟨changed, hchanged⟩ := h'.withField? "updated" (.str updatedStamp)
  have hset : setFields issue [(field, value)] = (fielded, .ok ()) := by simp [setFields, hfielded]
  have hlabels : (fieldsQuery field value).pointer (.ofKeys ["update", "labels"]) = none := by
    simp (disch := decide) [fieldsQuery, Json.pointer_ofKeys, Json.follow_cons, Json.get?_ofMembers]
  refine ⟨changed, ?_, .setting key "updated" _ fielded changed h' hchanged, fun other => ?_⟩
  · rw [changeIssue, Snapshot.fields_fieldsQuery, hset]
    simp only [hlabels, Option.bind_none, Option.getD_none, labelOperations, hchanged]
  · rw [fieldOf?_withField? hchanged, fieldOf?_withField? hfielded]

/-- A change that the tracker accepts is put in the place of the issue. -/
theorem World.update_stored {w : World} {s : Snapshot} {issue : Json} (hs : '/' ∉ s.id.toList)
    (hstored : Table.get? s.id w.tracker.issues = some issue) {query changed : Json}
    (hchange : changeIssue query issue = (changed, accepted)) :
    w.result (s.update query) = .ok () ∧
      (w.after (s.update query)).tracker = (w.tracker.noted (.put s.path query)).putIssue s.id changed := by
  have hnoted : Table.get? s.id (w.tracker.noted (.put s.path query)).issues = some issue := hstored
  have hrespond : w.tracker.respond (.put s.path query) =
      ((w.tracker.noted (.put s.path query)).putIssue s.id changed, accepted) := by
    rw [s.respond_issue hs w.tracker rfl]
    unfold Tracker.issueRoute
    simp only [hnoted]
    show (_, (changeIssue query issue).2) = _
    rw [hchange]
    show ((w.tracker.noted (.put s.path query)).putIssue s.id (changeIssue query issue).1, accepted) = _
    rw [hchange]
  rw [Snapshot.update, result_perform, after_perform, answered, hrespond]
  exact ⟨rfl, rfl⟩

/-- Setting a known property writes its field. -/
theorem Snapshot.setProperty_eq {p : Project} (hcodec : p.codec.OneToOne) {m : FieldMapping} (hm : m ∈ p.codec)
    (s : Snapshot) (value : Json) : ∃ warnings, s.setProperty p m.property value =
      Program.warnAll warnings (s.update (fieldsQuery m.field (m.written value (s.properties p.codec)))) := by
  have hfind : p.codec.byProperty? m.property = some m := hcodec.byProperty?_eq_some.2 ⟨hm, rfl⟩
  unfold setProperty PropertyCodec.encode?
  rw [hfind]
  exact ⟨_, rfl⟩

/-- For properties and fields that correspond one to one, none of them in a field that names the issue or
that the tracker changes by itself: an unknown property is not asked for at all. A known one is set, and
when the issue is fetched again its properties are the former ones but for this, which is now what its kind
keeps of the value. -/
theorem setProperty_read_back {p : Project} (hcodec : p.codec.OneToOne)
    (hfree : ∀ m ∈ p.codec, m.field ∉ ["summary", "status", "updated"]) {w : World} (hw : w.tracker.Reachable)
    {id : String} {s : Snapshot} (hs : w.result (Project.issue id) = .ok (some s)) (name : String) (value : Json) :
    let fetched := w.after (Project.issue id)
    let properties := s.properties p.codec
    ((∀ m ∈ p.codec, m.property ≠ name) → fetched.calls (s.setProperty p name value) = []) ∧
      ∀ m ∈ p.codec, m.property = name →
        fetched.result (s.setProperty p name value) = .ok () ∧
          ∃ s', (fetched.after (s.setProperty p name value)).result (Project.issue id) = .ok (some s') ∧
            s'.properties p.codec = properties.assign name (m.kind.kept? value properties) := by
  intro fetched properties
  refine ⟨fun hunknown => ?_, ?_⟩
  · have hnone : p.codec.byProperty? name = none := by
      refine List.find?_eq_none.2 fun m hm => ?_
      simpa using hunknown m hm
    unfold Snapshot.setProperty PropertyCodec.encode?
    rw [hnone]
    rfl
  rintro m hm rfl
  -- Fetching changes nothing but the log.
  have hunlogged : fetched.tracker.unlogged = w.tracker.unlogged := World.unlogged_after (Project.reads_issue id) w
  have horderly : fetched.tracker.Orderly := hw.orderly.of_unlogged hunlogged
  have hfinds : fetched.tracker.Finds id s := ((World.result_issue hw.orderly).1 hs).of_unlogged hunlogged
  obtain rfl : s.id = id := hfinds.id_eq horderly
  have hfiled : Filed s.id s.document := horderly.filed _ _ hfinds.stored
  -- The field of the property is written, and the time of change.
  let written := m.written value properties
  obtain ⟨warnings, hset⟩ := s.setProperty_eq hcodec hm value
  obtain ⟨changed, hchange, hfiled', hfields⟩ := Tracker.changeIssue_fieldsQuery hfiled m.field written
  obtain ⟨hresult, hafter⟩ := World.update_stored hfinds.slashFree hfinds.stored hchange
  -- Neither is among what a snapshot needs.
  have hkept : ∀ field ∈ ["summary", "status"], fieldOf? changed field = fieldOf? s.document field := by
    intro field hfield
    have hupdated : field ≠ "updated" := by
      rintro rfl
      exact absurd hfield (by decide)
    have hother : field ≠ m.field := by
      rintro rfl
      exact hfree m hm (List.mem_append_left ["updated"] hfield)
    rw [hfields, if_neg hupdated, if_neg hother]
  obtain ⟨s', hs'⟩ := Snapshot.ofJson_congr hfinds.describes (hfiled'.key.trans hfiled.key.symm) hkept
  obtain rfl := Snapshot.document_of_ofJson hs'
  rw [hset, World.result_warnAll, World.after_warnAll]
  refine ⟨hresult, s', World.result_issue_of_finds ?_, ?_⟩
  · rw [hafter]
    exact ⟨hfinds.slashFree, Table.get?_insert_self _ _ _, hs'⟩
  · have hset' : ∀ m' ∈ p.codec, fieldOf? s'.document m'.field =
        if m'.field = m.field then some written else fieldOf? s.document m'.field := by
      intro m' hm'
      have hupdated : m'.field ≠ "updated" := fun heq => hfree m' hm' (by simp [heq])
      rw [hfields, if_neg hupdated]
    rw [hcodec.properties_eq_assign hfiled hfiled' hm hset', m.shown?_written]

/-- A project with a property whose choices hang on the components of an issue. -/
def Project.compiled : Project :=
  ⟨.repository, none, .withCustom [⟨"subcomponent", "customfield_10008", .cascading "components"⟩]⟩

/-- A tracker with an issue that has a component. -/
def Tracker.componented : Tracker :=
  ((ofIssue "X-1" "Open" []).setField? "X-1" "components" (.arr [PropertyCodec.named (.str "hotspot")])).getD
    (ofIssue "X-1" "Open" [])

theorem Tracker.reachable_componented : Tracker.componented.Reachable := by
  unfold componented
  cases hset : (ofIssue "X-1" "Open" []).setField? "X-1" "components" (.arr [PropertyCodec.named (.str "hotspot")]) with
  | none => exact reachable_ofIssue "X-1" "Open" []
  | some t => exact (reachable_ofIssue "X-1" "Open" []).step (.field hset)

/-- A choice below the component is read back. -/
theorem setProperty_read_back_choice :
    let p := Project.compiled
    let w : World := ⟨.componented, none⟩
    p.codec.OneToOne ∧ (∀ m ∈ p.codec, m.field ∉ ["summary", "status", "updated"]) ∧ w.tracker.Reachable ∧
      ∃ s, w.result (Project.issue "X-1") = .ok (some s) ∧
        let set := (w.after (Project.issue "X-1")).after (s.setProperty p "subcomponent" (.str "compiler"))
        ∃ s', set.result (Project.issue "X-1") = .ok (some s') ∧
          s'.properties p.codec = (s.properties p.codec).assign "subcomponent" (some (.str "compiler")) := by
  intro p w
  have hcodec : p.codec.OneToOne := ⟨by decide, by decide⟩
  have hfree : ∀ m ∈ p.codec, m.field ∉ ["summary", "status", "updated"] := by decide
  have hw : w.tracker.Reachable := Tracker.reachable_componented
  obtain ⟨s, hs⟩ : ∃ s, w.found "X-1" = [s] := List.length_eq_one_iff.1 (by decide +kernel)
  have hshown : (w.found "X-1").all fun s =>
      (Table.get? "components" (s.properties p.codec)).any (· == .arr [.str "hotspot"]) := by decide +kernel
  have hfound : w.result (Project.issue "X-1") = .ok (some s) := World.mem_found.1 (hs ▸ List.mem_cons_self)
  have hkept : FieldKind.kept? (.cascading "components") (.str "compiler") (s.properties p.codec) =
      some (.str "compiler") := by
    rw [hs, List.all_cons, List.all_nil, Bool.and_true] at hshown
    obtain ⟨components, hcomponents, hbeq⟩ := (Option.any_eq_true _ _).1 hshown
    cases components with
    | arr items =>
      cases items with
      | nil => cases hbeq
      | cons item rest => simp only [FieldKind.kept?, hcomponents]
    | _ => cases hbeq
  obtain ⟨-, s', hs', hproperties⟩ := (setProperty_read_back hcodec hfree hw hfound "subcomponent" (.str "compiler")).2
    ⟨"subcomponent", "customfield_10008", .cascading "components"⟩ (by decide) rfl
  rw [hkept] at hproperties
  exact ⟨hcodec, hfree, hw, s, hfound, s', hs', hproperties⟩

end IssueTracker
