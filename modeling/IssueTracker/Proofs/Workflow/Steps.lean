import IssueTracker.Proofs.Document
import IssueTracker.Proofs.Routing
import IssueTracker.Proofs.UniqueKeys
import IssueTracker.Proofs.World
import IssueTracker.Workflow
/-!
# Steps through a tracker's workflow

The tracker keeps a graph of statuses, and an issue stands at one of them. `Drive` sees the
graph as a map from status names to ids; the tracker looks a transition up by its id. Where the
ids that leave a status are distinct the two agree: fetching tells what can be reached, and
performing the id told for a status moves the issue there.
-/

namespace IssueTracker

namespace Workflow

/-- The statuses that one transition leads to. -/
def reachable (graph : List Transition) (status : String) : List String :=
  (graph.filter (·.source = status)).map (·.target)

/-- No two transitions from one status have the same id. -/
def DistinctIds (graph : List Transition) : Prop :=
  ∀ status, ((graph.filter (·.source = status)).map (·.id)).Nodup

/-- What is offered for transitions. -/
def offers (ts : List Transition) : Transitions := ts.map fun x => (x.target, x.id)

end Workflow

open Workflow

/-! ## The offered transitions -/

theorem Transitions.idTo?_offers {ts : List Transition} {status id : String}
    (h : (offers ts).idTo? status = some id) : ∃ x ∈ ts, x.target = status ∧ x.id = id := by
  obtain ⟨entry, hfind, rfl⟩ := Option.map_eq_some_iff.1 h
  have hmem := List.mem_reverse.1 (List.mem_of_find?_eq_some hfind)
  obtain ⟨x, hx, rfl⟩ := List.mem_map.1 hmem
  exact ⟨x, hx, by simpa using List.find?_some hfind, rfl⟩

theorem Transitions.idTo?_offers_eq_none {ts : List Transition} {status : String} :
    (offers ts).idTo? status = none ↔ status ∉ ts.map (·.target) := by
  simp [Transitions.idTo?, offers]

theorem Workflow.Drive.readTransitions_offers (ts : List Transition) :
    Drive.readTransitions (.ofMembers [("transitions", .arr (ts.map Tracker.transitionDocument))]) =
      .ok (offers ts) := by
  have hread : ∀ x, Drive.readTransition (Tracker.transitionDocument x) = .ok (x.target, x.id) := by
    intro x
    simp [Drive.readTransition, Tracker.transitionDocument, Json.stringAt, Json.idAt, Json.valueAt,
      Json.pointer_ofKeys, Json.follow_cons, Json.get?_ofMembers, Json.index?, Json.decimal?, bind,
      Except.bind, pure, Except.pure]
  have hitems : Json.itemsAt (.ofMembers [("transitions", .arr (ts.map Tracker.transitionDocument))])
      (.ofKeys ["transitions"]) = ts.map Tracker.transitionDocument := by
    simp [Json.itemsAt, Json.pointer_ofKeys, Json.follow_cons, Json.get?_ofMembers, Json.index?,
      Json.decimal?, Json.asArray?]
  rw [Drive.readTransitions, hitems, List.mapM_map]
  exact (congrArg (List.mapM · ts) (funext hread)).trans List.mapM_pure

/-! ## The status of an issue -/

namespace Tracker

/-- The status of an issue, where it is a text. -/
def status? (t : Tracker) (key : String) : Option String :=
  (Table.get? key t.issues).bind fun issue => issue.stringAt? (.ofKeys ["fields", "status", "name"])

theorem status?_eq_some {t : Tracker} {key status : String} (h : t.status? key = some status) :
    ∃ issue, Table.get? key t.issues = some issue ∧
      issue.pointer (.ofKeys ["fields", "status", "name"]) = some (.str status) := by
  obtain ⟨issue, hget, hstr⟩ := Option.bind_eq_some_iff.1 h
  obtain ⟨value, hvalue, hs⟩ := Option.bind_eq_some_iff.1 hstr
  cases value <;> simp only [Json.asString?, Option.some.injEq, reduceCtorEq] at hs
  exact ⟨issue, hget, hs ▸ hvalue⟩

/-- Where there is a status there is a place for another. -/
theorem withStatus?_of_status {issue : Json} {status : String}
    (h : issue.pointer (.ofKeys ["fields", "status", "name"]) = some (.str status)) (name : String) :
    ∃ changed, withStatus? name issue = some changed ∧
      changed.pointer (.ofKeys ["fields", "status", "name"]) = some (.str name) := by
  have hkeys : Json.index? "fields" = none ∧ Json.index? "status" = none ∧ Json.index? "name" = none := by
    decide
  simp only [Json.pointer_ofKeys, Json.follow_cons hkeys.1, Json.follow_cons hkeys.2.1,
    Json.follow_cons hkeys.2.2, Option.bind_eq_some_iff] at h ⊢
  obtain ⟨fields, hfields, value, hvalue, old, hold, -⟩ := h
  -- From the name outwards: each object that held something can hold something else.
  obtain ⟨value', hv⟩ := Json.set?_of_get? hold "name" (.str name)
  obtain ⟨fields', hf⟩ := Json.set?_of_get? hvalue "status" value'
  obtain ⟨issue', hi⟩ := Json.set?_of_get? hfields "fields" fields'
  refine ⟨issue', ?_, fields', ?_, value', ?_, .str name, ?_, rfl⟩
  · simp [withStatus?, withField?, Json.getD, hfields, hvalue, hv, hf, hi]
  · rw [Json.get?_of_set? hi, if_pos rfl]
  · rw [Json.get?_of_set? hf, if_pos rfl]
  · rw [Json.get?_of_set? hv, if_pos rfl]

theorem statusOf_eq {issue : Json} {status : String}
    (h : issue.pointer (.ofKeys ["fields", "status", "name"]) = some (.str status)) :
    statusOf issue = status := by
  simp [statusOf, h, Json.asString?]

end Tracker

/-! ## Requests about transitions -/

section Requests

variable {s : Snapshot} {t : Tracker} {status : String}

theorem respond_fetch (hs : '/' ∉ s.id.toList) (h : t.status? s.id = some status) :
    t.respond (.get (s.path ++ "/transitions")) =
      (t.noted (.get (s.path ++ "/transitions")), .ok (.ofMembers [("transitions",
        .arr ((t.workflow.filter (·.source = status)).map Tracker.transitionDocument))])) := by
  obtain ⟨issue, hget, hstatus⟩ := Tracker.status?_eq_some h
  rw [Snapshot.respond_transitions hs t rfl, Tracker.transitionsRoute]
  simp only [Tracker.noted_issues, hget, Tracker.statusOf_eq hstatus]
  rfl

/-- An id that the transitions offer leads where they say. -/
theorem respond_perform (hs : '/' ∉ s.id.toList) (h : t.status? s.id = some status)
    (hids : DistinctIds t.workflow) {x : Transition}
    (hx : x ∈ t.workflow.filter (·.source = status)) :
    let r := Request.post (s.path ++ "/transitions") (Drive.transitionBody x.id)
    (t.respond r).2 = Tracker.accepted ∧ (t.respond r).1.status? s.id = some x.target ∧
      (t.respond r).1.workflow = t.workflow := by
  intro r
  obtain ⟨issue, hget, hstatus⟩ := Tracker.status?_eq_some h
  obtain ⟨changed, hchanged, hplace⟩ := Tracker.withStatus?_of_status hstatus x.target
  -- The tracker takes the first transition with the id, and there is no other.
  have hfind := UniqueKeys.find?_key (·.id) (hids status) hx
  have hid : (((Tracker.bodyOf r).pointer (.ofKeys ["transition", "id"])).bind Json.asString?).getD "" = x.id := by
    simp [r, Request.post, Tracker.bodyOf, Drive.transitionBody, Json.pointer_ofKeys, Json.follow_cons,
      Json.get?_ofMembers, Json.index?, Json.decimal?, Json.asString?]
  have hr : t.respond r = ((t.noted r).putIssue s.id changed, Tracker.accepted) := by
    rw [Snapshot.respond_transitions hs t rfl, Tracker.transitionsRoute]
    simp only [Tracker.noted_issues, hget, Tracker.statusOf_eq hstatus, hid, Tracker.transitionsFrom,
      Tracker.noted_workflow, hfind, hchanged]
    rfl
  rw [hr]
  refine ⟨rfl, ?_, rfl⟩
  simp [Tracker.status?, Tracker.putIssue, Json.stringAt?, hplace, Json.asString?]

end Requests

end IssueTracker
