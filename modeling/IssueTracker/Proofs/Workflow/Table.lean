import IssueTracker.Proofs.Workflow.Course
import IssueTracker.Snapshot.Operations
/-!
# Driving an issue to a state

What `setState` does to an issue of the tracker, whatever the graph of statuses: the table of the
workflow, read off the statuses that can be reached. A second call finds the issue where the
first one left it, so the same table says when it succeeds again.
-/

namespace IssueTracker

open World Workflow Workflow.Drive

/-- The rows of the table: what becomes of an issue at a status that is driven to a state, by the
statuses that can be reached. A row gives the result, the statuses the issue is moved to in turn,
and the one it is left at. -/
inductive Workflow.Row (reach : String → List String) (status : String) :
    State → Except TrackerError Unit → List String → String → Prop
  | noneAvailable {t} : reach status = [] →
      Row reach status t (.error (.transition .noneAvailable)) [] status
  | direct {t : State} : t.name ∈ reach status → Row reach status t (.ok ()) [t.name] t.name
  | resolvedViaOpen : "Resolved" ∉ reach status → "Open" ∈ reach status → "Resolved" ∈ reach "Open" →
      Row reach status .resolved (.ok ()) ["Open", "Resolved"] "Resolved"
  | stuckInOpen : "Resolved" ∉ reach status → "Open" ∈ reach status → "Resolved" ∉ reach "Open" →
      Row reach status .resolved (.error (.transition .resolvedViaOpen)) ["Open"] "Open"
  | nothingToResolve : reach status ≠ [] → "Resolved" ∉ reach status → "Open" ∉ reach status →
      Row reach status .resolved (.ok ()) [] status
  | closedViaResolved : "Closed" ∉ reach status → "Resolved" ∈ reach status →
      "Closed" ∈ reach "Resolved" →
      Row reach status .closed (.ok ()) ["Resolved", "Closed"] "Closed"
  | stuckInResolved : "Closed" ∉ reach status → "Resolved" ∈ reach status →
      "Closed" ∉ reach "Resolved" →
      Row reach status .closed (.error (.transition .closedViaResolved)) ["Resolved"] "Resolved"
  | closedUnreachable : reach status ≠ [] → "Closed" ∉ reach status → "Resolved" ∉ reach status →
      Row reach status .closed (.error (.transition (.unreachable .closed))) [] status
  | openUnreachable : reach status ≠ [] → "Open" ∉ reach status →
      Row reach status .opened (.error (.transition (.unreachable .opened))) [] status

namespace Workflow.Row

variable {reach : String → List String} {status last : String} {target : State}
  {result : Except TrackerError Unit} {moves : List String}

/-- Some row applies. -/
theorem exists_row (reach : String → List String) (status : String) (target : State) :
    ∃ result moves last, Row reach status target result moves last := by
  by_cases hnil : reach status = []
  · exact ⟨_, _, _, noneAvailable hnil⟩
  by_cases hdirect : target.name ∈ reach status
  · exact ⟨_, _, _, direct hdirect⟩
  cases target with
  | opened => exact ⟨_, _, _, openUnreachable hnil hdirect⟩
  | resolved =>
    by_cases hopen : "Open" ∈ reach status
    · by_cases hthen : "Resolved" ∈ reach "Open"
      · exact ⟨_, _, _, resolvedViaOpen hdirect hopen hthen⟩
      · exact ⟨_, _, _, stuckInOpen hdirect hopen hthen⟩
    · exact ⟨_, _, _, nothingToResolve hnil hdirect hopen⟩
  | closed =>
    by_cases hresolved : "Resolved" ∈ reach status
    · by_cases hthen : "Closed" ∈ reach "Resolved"
      · exact ⟨_, _, _, closedViaResolved hdirect hresolved hthen⟩
      · exact ⟨_, _, _, stuckInResolved hdirect hresolved hthen⟩
    · exact ⟨_, _, _, closedUnreachable hnil hdirect hresolved⟩

/-- A row that ends well leaves the issue at the state's own status, or where it was. -/
theorem last_of_ok (h : Row reach status target (.ok ()) moves last) :
    last = target.name ∨ target = .resolved ∧ moves = [] ∧ last = status := by
  cases h with
  | direct _ | resolvedViaOpen _ _ _ | closedViaResolved _ _ _ => exact .inl rfl
  | nothingToResolve _ _ _ => exact .inr ⟨rfl, rfl, rfl⟩

end Workflow.Row

section SetState

variable {w : World} {s : Snapshot} {graph : List Transition} {status last : String} {target : State}
  {result : Except TrackerError Unit} {moves : List String}

/-- The issue takes the course of the row that applies. -/
theorem Snapshot.ends_setState (h : w.Stands s graph status)
    (hrow : Row (reachable graph) status target result moves last) :
    w.Ends s (s.setState target) result moves last := by
  have hne : ∀ {name}, name ∈ reachable graph status → reachable graph status ≠ [] :=
    fun hmem => List.ne_nil_of_mem hmem
  -- Every row starts with a fetch; what was offered then decides the rest.
  cases hrow with
  | noneAvailable hnil => exact toward_of_nil h hnil target
  | direct ht =>
    refine toward_of_ne_nil h (hne ht) fun w' hw' => ?_
    cases target <;> exact ends_offered hw' ht
  | resolvedViaOpen ht hm hthen =>
    refine toward_of_ne_nil h (hne hm) fun w' hw' => ?_
    rw [choose, offered_of_notMem _ ht]
    exact ends_through hw' hm hthen
  | stuckInOpen ht hm hthen =>
    refine toward_of_ne_nil h (hne hm) fun w' hw' => ?_
    rw [choose, offered_of_notMem _ ht]
    exact ends_through_stuck hw' hm hthen
  | nothingToResolve hnil ht hm =>
    refine toward_of_ne_nil h hnil fun w' hw' => ?_
    rw [choose, offered_of_notMem _ ht, through_of_notMem _ _ hm]
    exact ends_warn hw'
  | closedViaResolved ht hm hthen =>
    refine toward_of_ne_nil h (hne hm) fun w' hw' => ?_
    rw [choose, offered_of_notMem _ ht]
    exact ends_through hw' hm hthen
  | stuckInResolved ht hm hthen =>
    refine toward_of_ne_nil h (hne hm) fun w' hw' => ?_
    rw [choose, offered_of_notMem _ ht]
    exact ends_through_stuck hw' hm hthen
  | closedUnreachable hnil ht hm =>
    refine toward_of_ne_nil h hnil fun w' hw' => ?_
    rw [choose, offered_of_notMem _ ht, through_of_notMem _ _ hm]
    exact ends_done hw'
  | openUnreachable hnil ht =>
    refine toward_of_ne_nil h hnil fun w' hw' => ?_
    rw [choose, offered_of_notMem _ ht]
    exact ends_done hw'

/-- Ids that are distinct together with their sources are distinct at every status. -/
theorem Workflow.distinctIds_of_nodup {graph : List Transition}
    (h : (graph.map fun x => (x.source, x.id)).Nodup) : DistinctIds graph := by
  intro status
  induction graph with
  | nil => exact .nil
  | cons x graph ih =>
    obtain ⟨hx, hgraph⟩ := List.nodup_cons.1 h
    rw [List.filter_cons]
    split
    · refine List.nodup_cons.2 ⟨fun hmem => hx ?_, ih hgraph⟩
      obtain ⟨y, hy, hid⟩ := List.mem_map.1 hmem
      have hsource : x.source = y.source := by simp_all
      exact List.mem_map.2 ⟨y, (List.mem_filter.1 hy).1, Prod.ext hsource.symm hid⟩
    · exact ih hgraph

/-- An issue at a status is driven by the row that applies there: it ends with that row's result,
takes its moves, and is left where it says. Some row always applies. A drive that ends well leaves
the issue at the state's own status, or, with nothing to resolve, where it was. -/
theorem setState_follows_row (hs : '/' ∉ s.id.toList) (hstatus : w.tracker.status? s.id = some status)
    (hids : DistinctIds w.tracker.workflow) (target : State) :
    (∀ result moves last, Row (reachable w.tracker.workflow) status target result moves last →
      w.Ends s (s.setState target) result moves last) ∧
    (∃ result moves last, Row (reachable w.tracker.workflow) status target result moves last) ∧
    (w.result (s.setState target) = .ok () →
      (w.after (s.setState target)).tracker.status? s.id = some target.name ∨
      target = .resolved ∧ w.tracker.movesOf s.id (w.calls (s.setState target)) = [] ∧
        (w.after (s.setState target)).tracker.status? s.id = some status) := by
  have h : w.Stands s w.tracker.workflow status := ⟨hs, hstatus, rfl, hids⟩
  refine ⟨fun _ _ _ hrow => s.ends_setState h hrow, Row.exists_row _ _ _, fun hok => ?_⟩
  obtain ⟨result, moves, last, hrow⟩ := Row.exists_row (reachable w.tracker.workflow) status target
  have hends := s.ends_setState h hrow
  obtain rfl : result = .ok () := hends.result_eq.symm.trans hok
  rcases hrow.last_of_ok with rfl | ⟨ht, rfl, rfl⟩
  · exact .inl hends.status_eq
  · exact .inr ⟨ht, hends.moves_eq, hends.status_eq⟩

/-- Two transitions lead from "In Progress" to "Resolved", and none to "Closed". -/
def Workflow.closing : List Transition :=
  [⟨"In Progress", "Resolved", "4"⟩, ⟨"In Progress", "Resolved", "5"⟩, ⟨"Resolved", "Closed", "5"⟩]

theorem setState_closes_through_resolved :
    '/' ∉ (Snapshot.ofIssue "X-1" "In Progress").id.toList ∧
    (Tracker.ofIssue "X-1" "In Progress" closing).status? "X-1" = some "In Progress" ∧
    DistinctIds closing ∧
    World.Ends ⟨Tracker.ofIssue "X-1" "In Progress" closing, none⟩ (Snapshot.ofIssue "X-1" "In Progress")
      ((Snapshot.ofIssue "X-1" "In Progress").setState .closed) (.ok ()) ["Resolved", "Closed"] "Closed" := by
  have hids : DistinctIds closing := distinctIds_of_nodup (by decide)
  have hstatus : (Tracker.ofIssue "X-1" "In Progress" closing).status? "X-1" = some "In Progress" := by
    decide +kernel
  refine ⟨by decide, hstatus, hids, ?_⟩
  exact (setState_follows_row (w := ⟨Tracker.ofIssue "X-1" "In Progress" closing, none⟩)
    (s := Snapshot.ofIssue "X-1" "In Progress") (by decide) hstatus hids .closed).1 _ _ _
    (.closedViaResolved (by decide) (by decide) (by decide))

/-! ## A second time -/

/-- An issue of the tracker is in a state. -/
def World.InState (w : World) (s : Snapshot) (target : State) : Prop :=
  ∃ status, w.tracker.status? s.id = some status ∧ State.ofStatus status = target

/-- From a state's own status there is a way to that status again, or none to leave it by. -/
def Workflow.Repeatable (reach : String → List String) : State → Prop
  | .opened => "Open" ∈ reach "Open"
  | .resolved =>
    "Resolved" ∈ reach "Resolved" ∨ ("Open" ∈ reach "Resolved" ∧ "Resolved" ∈ reach "Open") ∨
      (reach "Resolved" ≠ [] ∧ "Open" ∉ reach "Resolved")
  | .closed =>
    "Closed" ∈ reach "Closed" ∨ ("Resolved" ∈ reach "Closed" ∧ "Closed" ∈ reach "Resolved")

theorem State.ofStatus_name (target : State) : ofStatus target.name = target := by
  cases target <;> rfl

/-- The terminal states have one status each. -/
theorem State.eq_name_of_ofStatus {status : String} {target : State} (h : ofStatus status = target)
    (ht : target ≠ .opened) : status = target.name := by
  subst h
  unfold ofStatus at ht ⊢
  split
  · assumption
  · split
    · assumption
    · simp_all

theorem Workflow.Row.ok_again_iff {reach : String → List String} :
    (∃ moves last, Row reach target.name target (.ok ()) moves last) ↔ Repeatable reach target := by
  constructor
  · rintro ⟨moves, last, h⟩
    cases h with
    | direct ht => cases target with
      | opened => exact ht
      | resolved => exact .inl ht
      | closed => exact .inl ht
    | resolvedViaOpen _ hm hthen => exact .inr (.inl ⟨hm, hthen⟩)
    | nothingToResolve hne _ hm => exact .inr (.inr ⟨hne, hm⟩)
    | closedViaResolved _ hm hthen => exact .inr ⟨hm, hthen⟩
  · intro h
    by_cases ht : target.name ∈ reach target.name
    · exact ⟨_, _, .direct ht⟩
    cases target with
    | opened => exact absurd h ht
    | resolved =>
      rcases h with h | ⟨hm, hthen⟩ | ⟨hne, hm⟩
      · exact absurd h ht
      · exact ⟨_, _, .resolvedViaOpen ht hm hthen⟩
      · exact ⟨_, _, .nothingToResolve hne ht hm⟩
    | closed =>
      rcases h with h | ⟨hm, hthen⟩
      · exact absurd h ht
      · exact ⟨_, _, .closedViaResolved ht hm hthen⟩

/-- After a drive that ended well and left the issue in its state, a second one does so again
exactly where the state's own status can be repeated. -/
theorem setState_again_iff (hs : '/' ∉ s.id.toList) (hstatus : w.tracker.status? s.id = some status)
    (hids : DistinctIds w.tracker.workflow) (hok : w.result (s.setState target) = .ok ())
    (hstate : (w.after (s.setState target)).InState s target) :
    (w.after (s.setState target)).result (s.setState target) = .ok () ∧
        ((w.after (s.setState target)).after (s.setState target)).InState s target ↔
      Repeatable (reachable w.tracker.workflow) target := by
  let graph := w.tracker.workflow
  let w' := w.after (s.setState target)
  have h : w.Stands s graph status := ⟨hs, hstatus, rfl, hids⟩
  obtain ⟨result, moves, last, hrow⟩ := Row.exists_row (reachable graph) status target
  have hends := s.ends_setState h hrow
  obtain rfl : result = .ok () := hends.result_eq.symm.trans hok
  -- Either way the first drive has left the issue at the state's own status.
  have hlast : last = target.name := by
    rcases hrow.last_of_ok with hl | ⟨rfl, -, -⟩
    · exact hl
    · obtain ⟨st, hst, hof⟩ := hstate
      have hst' : st = last := Option.some.inj (hst.symm.trans hends.status_eq)
      exact hst' ▸ State.eq_name_of_ofStatus hof (by decide)
  subst hlast
  have h' : w'.Stands s graph target.name := ⟨hs, hends.status_eq, hends.graph_eq, hids⟩
  rw [← Row.ok_again_iff]
  constructor
  · -- The row that applies the second time ends well, so it shows the way.
    rintro ⟨hok', -⟩
    obtain ⟨result, moves', last', hrow'⟩ := Row.exists_row (reachable graph) target.name target
    obtain rfl : result = .ok () := (s.ends_setState h' hrow').result_eq.symm.trans hok'
    exact ⟨_, _, hrow'⟩
  · rintro ⟨moves', last', hrow'⟩
    have hends' := s.ends_setState h' hrow'
    refine ⟨hends'.result_eq, target.name, ?_, State.ofStatus_name target⟩
    rcases hrow'.last_of_ok with rfl | ⟨-, -, rfl⟩ <;> exact hends'.status_eq

/-- The usual workflow, in which a resolved issue is resolved again through "Open". -/
def Workflow.usual : List Transition :=
  [⟨"Open", "Resolved", "5"⟩, ⟨"Resolved", "Open", "3"⟩, ⟨"Resolved", "Closed", "701"⟩]

theorem setState_resolves_again :
    let w : World := ⟨Tracker.ofIssue "X-1" "Open" usual, none⟩
    let s := Snapshot.ofIssue "X-1" "Open"
    '/' ∉ s.id.toList ∧ w.tracker.status? s.id = some "Open" ∧ DistinctIds w.tracker.workflow ∧
      w.result (s.setState .resolved) = .ok () ∧ (w.after (s.setState .resolved)).InState s .resolved ∧
      (w.after (s.setState .resolved)).result (s.setState .resolved) = .ok () ∧
      ((w.after (s.setState .resolved)).after (s.setState .resolved)).InState s .resolved := by
  intro w s
  have hids : DistinctIds usual := distinctIds_of_nodup (by decide)
  have hstatus : w.tracker.status? s.id = some "Open" := by decide +kernel
  have hfirst : w.Ends s (s.setState .resolved) (.ok ()) ["Resolved"] "Resolved" :=
    s.ends_setState ⟨by decide, hstatus, rfl, hids⟩ (.direct (by decide))
  have hstate : (w.after (s.setState .resolved)).InState s .resolved := ⟨_, hfirst.status_eq, rfl⟩
  refine ⟨by decide, hstatus, hids, hfirst.result_eq, hstate, ?_⟩
  exact (setState_again_iff (by decide) hstatus hids hfirst.result_eq hstate).2 (.inr (.inl (by decide)))

/-- From "Resolved" there is a way to "Open" and no way back. -/
def Workflow.reopening : List Transition :=
  [⟨"In Progress", "Resolved", "5"⟩, ⟨"Resolved", "Open", "3"⟩, ⟨"Open", "In Progress", "4"⟩]

/-- Resolving twice can fail and leave the issue open, though resolving once has succeeded. -/
theorem setState_not_idempotent :
    ¬ ∀ (w : World) (s : Snapshot) (status : String) (target : State),
      '/' ∉ s.id.toList → w.tracker.status? s.id = some status → DistinctIds w.tracker.workflow →
      w.result (s.setState target) = .ok () → (w.after (s.setState target)).InState s target →
      (w.after (s.setState target)).result (s.setState target) = .ok () ∧
        ((w.after (s.setState target)).after (s.setState target)).InState s target := by
  intro h
  let w : World := ⟨Tracker.ofIssue "X-1" "In Progress" reopening, none⟩
  let s := Snapshot.ofIssue "X-1" "In Progress"
  have hids : DistinctIds reopening := distinctIds_of_nodup (by decide)
  have hstatus : w.tracker.status? s.id = some "In Progress" := by decide +kernel
  have hfirst : w.Ends s (s.setState .resolved) (.ok ()) ["Resolved"] "Resolved" :=
    s.ends_setState ⟨by decide, hstatus, rfl, hids⟩ (.direct (by decide))
  have hsecond : (w.after (s.setState .resolved)).Ends s (s.setState .resolved)
      (.error (.transition .resolvedViaOpen)) ["Open"] "Open" :=
    s.ends_setState ⟨by decide, hfirst.status_eq, hfirst.graph_eq, hids⟩
      (.stuckInOpen (by decide) (by decide) (by decide))
  have hagain := (h w s "In Progress" .resolved (by decide) hstatus hids hfirst.result_eq
    ⟨_, hfirst.status_eq, rfl⟩).1
  rw [hsecond.result_eq] at hagain
  cases hagain

end SetState

end IssueTracker
