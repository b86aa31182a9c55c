import IssueTracker.Proofs.Operation.Frame
/-!
# Stored labels

What actions make of the labels that an issue is stored with. The three that write labels append one unless it
is there, drop every occurrence of one, or put a list in the place of all. No other action touches them, as long
as no property is kept in their field.
-/

namespace IssueTracker

open Tracker (Filed changeIssue accepted fieldOf? updatedStamp labelOperation)

/-- What an action makes of a list of labels. -/
def Action.relabel (a : Action) (labels : List String) : List String :=
  match a with
  | addLabel label => if label ∈ labels then labels else labels ++ [label]
  | removeLabel label => labels.filter (· ≠ label)
  | setLabels names => names
  | _ => labels

theorem Action.relabel_of_none {a : Action} (h : a.labelChange? = none) (labels : List String) :
    a.relabel labels = labels := by
  cases a with
  | addLabel _ | removeLabel _ | setLabels _ => cases h
  | _ => rfl

/-- An issue is stored with a list of labels. -/
def Tracker.Labelled (t : Tracker) (key : String) (labels : List String) : Prop :=
  ∃ issue, Table.get? key t.issues = some issue ∧ fieldOf? issue "labels" = some (.arr (labels.map .str))

/-! ## Operations on labels -/

theorem Json.contains_map_str (label : String) (labels : List String) :
    (labels.map Json.str).contains (.str label) = decide (label ∈ labels) := by
  induction labels with
  | nil => rfl
  | cons first rest ih =>
    have hfirst : (Json.str label == Json.str first) = decide (label = first) := rfl
    rw [List.map_cons, List.contains_cons, ih, hfirst, ← Bool.decide_or]
    exact decide_eq_decide.2 List.mem_cons.symm

theorem Json.filter_map_str (label : String) (labels : List String) :
    (labels.map Json.str).filter (· != .str label) = (labels.filter (· ≠ label)).map Json.str := by
  rw [List.filter_map]
  congr 1
  refine List.filter_congr fun other _ => ?_
  have hother : (Json.str other == Json.str label) = decide (other = label) := rfl
  rw [Function.comp_apply, bne, hother, ← decide_not]

section Operations

variable {issue : Json} {key : String} {labels : List String}

/-- What an action asks for is what it makes of the labels. -/
theorem labelOperation_relabel {a : Action} {operation : String} {operand : Json}
    (h : a.labelChange? = some (operation, operand)) (labels : List String) :
    labelOperation (.ofMembers [(operation, operand)]) (labels.map .str) = .ok ((a.relabel labels).map .str) := by
  cases a with
  | addLabel label =>
    cases h
    have hadd : (Json.ofMembers [("add", .str label)]).get? "add" = some (.str label) := by
      simp [Json.get?_ofMembers]
    simp only [labelOperation, hadd, Json.contains_map_str, decide_eq_true_eq, Action.relabel]
    split
    · rfl
    · rw [List.map_append, List.map_singleton]
  | removeLabel label =>
    cases h
    have hadd : (Json.ofMembers [("remove", .str label)]).get? "add" = none := by simp [Json.get?_ofMembers]
    have hremove : (Json.ofMembers [("remove", .str label)]).get? "remove" = some (.str label) := by
      simp [Json.get?_ofMembers]
    simp only [labelOperation, hadd, hremove, Json.filter_map_str, Action.relabel]
  | setLabels names =>
    cases h
    simp [labelOperation, Json.get?_ofMembers, Action.relabel]
  | _ => cases h

/-- A change of the labels is accepted, and sets the time of change besides. -/
theorem Tracker.changeIssue_labelsQuery (h : Filed key issue) {operation : String} {operand : Json}
    {before after : List Json} (hbefore : fieldOf? issue "labels" = some (.arr before))
    (hoperation : labelOperation (.ofMembers [(operation, operand)]) before = .ok after) :
    ∃ changed, changeIssue (Snapshot.labelsQuery operation operand) issue = (changed, accepted) ∧
      fieldOf? changed "labels" = some (.arr after) := by
  obtain ⟨labelled, hlabelled⟩ := h.withField? "labels" (.arr after)
  have h' : Filed key labelled := .setting key "labels" _ issue labelled h hlabelled
  obtain ⟨changed, hchanged⟩ := h'.withField? "updated" (.str updatedStamp)
  have hfields : (Snapshot.labelsQuery operation operand).get? "fields" = none := by
    simp [Snapshot.labelsQuery, Json.get?_ofMembers]
  have hoperations : (Snapshot.labelsQuery operation operand).pointer (.ofKeys ["update", "labels"]) =
      some (.arr [.ofMembers [(operation, operand)]]) := by
    simp (disch := decide) [Snapshot.labelsQuery, Json.pointer_ofKeys, Json.follow_cons, Json.get?_ofMembers]
  have hlabels : Tracker.labelsOf issue = before := by
    rw [Tracker.labelsOf, ← fieldOf?, hbefore]
    rfl
  refine ⟨changed, ?_, ?_⟩
  · rw [changeIssue, hfields]
    simp only [Option.bind_none, Option.getD_none, setFields, hoperations, Option.bind_some, Json.asArray?,
      Option.getD_some, labelOperations, hlabels, hoperation, hlabelled, hchanged]
  · rw [fieldOf?_withField? hchanged, if_neg (by decide), fieldOf?_withField? hlabelled, if_pos rfl]

end Operations

/-! ## Actions -/

/-- The labels are in the scope of none but their own changes. -/
theorem Action.labels_notMem_scope {p : Project} (hp : ∀ m ∈ p.codec, m.field ≠ "labels") (s : Snapshot)
    {a : Action} (h : a.labelChange? = none) (key : String) : (key, "labels") ∉ (a.scope p s).fields := by
  cases a with
  | addLabel _ | removeLabel _ | setLabels _ => cases h
  | setProperty name value =>
    rw [scope]
    cases hfind : p.codec.byProperty? name with
    | none => exact List.not_mem_nil
    | some m => simp [fieldScope, (hp m (List.mem_of_find?_eq_some hfind)).symm]
  | addLink link =>
    cases link with
    | web link =>
      rw [scope]
      split <;> exact List.not_mem_nil
    | issue target relationship => simp [scope]
  | removeLink link => cases link <;> exact List.not_mem_nil
  | _ => simp [scope, fieldScope]

namespace World

variable {w : World} {p : Project} {s : Snapshot} {labels : List String}

/-- A change of the labels goes through. -/
theorem update_labels (hw : w.tracker.Reachable) (hs : '/' ∉ s.id.toList) (h : w.tracker.Labelled s.id labels)
    {a : Action} {operation : String} {operand : Json} (hchange : a.labelChange? = some (operation, operand)) :
    let change := s.update (Snapshot.labelsQuery operation operand)
    w.result change = .ok () ∧ (w.after change).tracker.Labelled s.id (a.relabel labels) := by
  intro change
  obtain ⟨issue, hstored, hlabels⟩ := h
  obtain ⟨changed, haccepted, hchanged⟩ := Tracker.changeIssue_labelsQuery (hw.orderly.filed _ _ hstored) hlabels
    (labelOperation_relabel hchange labels)
  obtain ⟨hresult, hafter⟩ := update_stored hs hstored haccepted
  refine ⟨hresult, changed, ?_, hchanged⟩
  rw [hafter]
  exact Table.get?_insert_self _ _ _

/-- After an action an issue is stored with what the action makes of its labels. -/
theorem labelled_after (hp : ∀ m ∈ p.codec, m.field ≠ "labels") (hw : w.tracker.Reachable) (hs : '/' ∉ s.id.toList)
    (h : w.tracker.Labelled s.id labels) (a : Action) :
    (w.after (a.program p s)).tracker.Labelled s.id (a.relabel labels) := by
  cases hchange : a.labelChange? with
  | some change =>
    have hupdate := (update_labels hw hs h hchange).2
    cases a with
    | addLabel label | removeLabel label =>
      cases hchange
      exact hupdate
    | setLabels names =>
      cases hchange
      have hafter : w.after ((Action.setLabels names).program p s) =
          w.after (s.update (Snapshot.labelsQuery "set" (.arr (names.map .str)))) := w.after_bind_pure _ _
      rw [hafter]
      exact hupdate
    | _ => cases hchange
  | none =>
    obtain ⟨issue, hstored, hlabels⟩ := h
    obtain ⟨changed, hchanged, hsameBut⟩ := (Action.covers_after hs p a w).exists_issue hstored
    refine ⟨changed, hchanged, ?_⟩
    rw [hsameBut.field _ (Action.labels_notMem_scope hp s hchange s.id), hlabels, a.relabel_of_none hchange]

end World

end IssueTracker
