import IssueTracker.Proofs.Workflow.Steps
/-!
# Courses on a status graph

Where an issue stands on the tracker's graph of statuses, how a program that moves it ends, and
how the parts that `Drive.toward` is made of end: a fetch leaves the issue where it is, a
transition moves it to where the transition leads.
-/

namespace IssueTracker

open Workflow

/-- The statuses that requests move an issue to, one for each transition that is asked for. -/
def Tracker.movesOf (key : String) : Tracker → List Request → List (Option String)
  | _, [] => []
  | t, r :: rest =>
    let t' := (t.respond r).1
    if r.method = .post then t'.status? key :: movesOf key t' rest else movesOf key t' rest

namespace World

/-- An issue of the tracker stands at a status of a graph. -/
structure Stands (w : World) (s : Snapshot) (graph : List Transition) (status : String) : Prop where
  slashFree : '/' ∉ s.id.toList
  status_eq : w.tracker.status? s.id = some status
  graph_eq : w.tracker.workflow = graph
  distinct : DistinctIds graph

/-- A program ends with a result after moving an issue to statuses in turn, leaves the issue at
a status, and leaves the graph alone. -/
structure Ends (w : World) (s : Snapshot) (p : Program Unit) (result : Except TrackerError Unit)
    (moves : List String) (status : String) : Prop where
  result_eq : w.result p = result
  moves_eq : w.tracker.movesOf s.id (w.calls p) = moves.map some
  status_eq : (w.after p).tracker.status? s.id = some status
  graph_eq : (w.after p).tracker.workflow = w.tracker.workflow

end World

namespace Workflow.Drive

open World

variable {w : World} {s : Snapshot} {graph : List Transition} {status last : String}
  {result : Except TrackerError Unit} {moves : List String}

/-! ## One step -/

theorem ends_done (h : w.Stands s graph status) :
    w.Ends s (toProgram s.path (.done result)) result [] status :=
  ⟨rfl, rfl, h.status_eq, rfl⟩

theorem ends_warn {x : Warning} (h : w.Stands s graph status) :
    w.Ends s (toProgram s.path (.warn x (.done result))) result [] status :=
  ⟨rfl, rfl, h.status_eq, rfl⟩

/-- A program that starts with a request ends as what follows does, after the move that was asked
for, if it was one. -/
theorem ends_call {r : Request} {next : Answer → Program Unit} {moved : List String}
    (hmoved : (if r.method = .post then [(w.answered r).tracker.status? s.id] else []) = moved.map some)
    (hgraph : (w.answered r).tracker.workflow = w.tracker.workflow)
    (hnext : (w.answered r).Ends s (next (w.tracker.respond r).2) result moves last) :
    w.Ends s (.call r next) result (moved ++ moves) last := by
  refine ⟨?_, ?_, ?_, ?_⟩
  · rw [World.result_call]; exact hnext.result_eq
  · rw [World.calls_call, Tracker.movesOf, List.map_append, ← hmoved, ← hnext.moves_eq]
    split <;> rfl
  · rw [World.after_call]; exact hnext.status_eq
  · rw [World.after_call]; exact hnext.graph_eq.trans hgraph

/-- A fetch tells what can be reached. -/
theorem ends_fetch (h : w.Stands s graph status) {next : Except TrackerError Transitions → Drive}
    (hnext : ∀ w' : World, w'.Stands s graph status →
      w'.Ends s (toProgram s.path (next (.ok (offers (graph.filter (·.source = status)))))) result moves last) :
    w.Ends s (toProgram s.path (.fetch next)) result moves last := by
  let r := Request.get (s.path ++ "/transitions")
  have hr := respond_fetch h.slashFree h.status_eq
  have hw : (w.answered r).Stands s graph status := by
    refine ⟨h.slashFree, ?_, ?_, h.distinct⟩
    · rw [World.answered, hr]; exact h.status_eq
    · rw [World.answered, hr]; exact h.graph_eq
  have hread : (r.settle (w.tracker.respond r).2).bind readTransitions =
      .ok (offers (graph.filter (·.source = status))) := by
    rw [hr, ← h.graph_eq]; exact readTransitions_offers _
  -- A fetch is one request, and what follows depends on its answer.
  have hp : toProgram s.path (.fetch next) = .call r fun answer => toProgram s.path
      (next ((r.settle answer).bind readTransitions)) := rfl
  have hmoved : (if r.method = .post then [(w.answered r).tracker.status? s.id] else []) =
      ([] : List String).map some := rfl
  rw [hp]
  refine ends_call hmoved (hw.graph_eq.trans h.graph_eq.symm) ?_
  rw [hread]
  exact hnext _ hw

theorem ends_fetching (h : w.Stands s graph status) {next : Transitions → Drive}
    (hnext : ∀ w' : World, w'.Stands s graph status →
      w'.Ends s (toProgram s.path (next (offers (graph.filter (·.source = status))))) result moves last) :
    w.Ends s (toProgram s.path (fetching next)) result moves last :=
  ends_fetch h hnext

/-- Performing an offered transition moves the issue; what follows starts from there. -/
theorem ends_perform (h : w.Stands s graph status) {x : Transition}
    (hx : x ∈ graph.filter (·.source = status)) {next : Except TrackerError Unit → Drive}
    (hnext : ∀ w' : World, w'.Stands s graph x.target →
      w'.Ends s (toProgram s.path (next (.ok ()))) result moves last) :
    w.Ends s (toProgram s.path (.perform x.id next)) result (x.target :: moves) last := by
  let r := Request.post (s.path ++ "/transitions") (transitionBody x.id)
  have hids : DistinctIds w.tracker.workflow := h.graph_eq ▸ h.distinct
  obtain ⟨hanswer, hstatus, hgraph⟩ :=
    respond_perform h.slashFree h.status_eq hids (h.graph_eq ▸ hx)
  have hw : (w.answered r).Stands s graph x.target :=
    ⟨h.slashFree, hstatus, hgraph.trans h.graph_eq, h.distinct⟩
  have hok : ((r.settle (w.tracker.respond r).2).map fun _ => ()) = .ok () := by
    rw [hanswer]; rfl
  have hp : toProgram s.path (.perform x.id next) = .call r fun answer => toProgram s.path
      (next ((r.settle answer).map fun _ => ())) := rfl
  have hmoved : (if r.method = .post then [(w.answered r).tracker.status? s.id] else []) = [x.target].map some := by
    rw [if_pos (show r.method = .post from rfl), hw.status_eq]
    rfl
  rw [hp]
  refine ends_call hmoved (hw.graph_eq.trans h.graph_eq.symm) ?_
  rw [hok]
  exact hnext _ hw

/-! ## The parts of the table -/

/-- What is offered for a status is a transition to it. -/
theorem offer_of_mem {name : String} (h : name ∈ reachable graph status) :
    ∃ x ∈ graph.filter (·.source = status), x.target = name ∧
      (offers (graph.filter (·.source = status))).idTo? name = some x.id := by
  cases hid : (offers (graph.filter (·.source = status))).idTo? name with
  | none => exact absurd h (Transitions.idTo?_offers_eq_none.1 hid)
  | some id =>
    obtain ⟨x, hx, hname, rfl⟩ := Transitions.idTo?_offers hid
    exact ⟨x, hx, hname, rfl⟩

theorem no_offer {name : String} (h : name ∉ reachable graph status) :
    (offers (graph.filter (·.source = status))).idTo? name = none :=
  Transitions.idTo?_offers_eq_none.2 h

theorem ends_offered (h : w.Stands s graph status) {target : State} {otherwise : Drive}
    (ht : target.name ∈ reachable graph status) :
    w.Ends s (toProgram s.path (offered (offers (graph.filter (·.source = status))) target otherwise))
      (.ok ()) [target.name] target.name := by
  obtain ⟨x, hx, hname, hid⟩ := offer_of_mem ht
  rw [offered, hid, ← hname]
  exact ends_perform h hx fun w' hw' => ends_done hw'

theorem offered_of_notMem {target : State} (otherwise : Drive)
    (ht : target.name ∉ reachable graph status) :
    offered (offers (graph.filter (·.source = status))) target otherwise = otherwise := by
  rw [offered, no_offer ht]

/-- A hop to a status from which the target can be reached. -/
theorem ends_through (h : w.Stands s graph status) {middle target : State} {stuck : TransitionError}
    {otherwise : Drive} (hm : middle.name ∈ reachable graph status)
    (ht : target.name ∈ reachable graph middle.name) :
    w.Ends s (toProgram s.path (through (offers (graph.filter (·.source = status))) middle target stuck
      otherwise)) (.ok ()) [middle.name, target.name] target.name := by
  obtain ⟨x, hx, hname, hid⟩ := offer_of_mem hm
  rw [through, hid, ← hname]
  refine ends_perform h hx fun w' hw' => ends_fetching hw' fun w'' hw'' => ?_
  rw [hname] at hw'' ⊢
  exact ends_offered hw'' ht

/-- A hop into a dead end leaves the issue there. -/
theorem ends_through_stuck (h : w.Stands s graph status) {middle target : State}
    {stuck : TransitionError} {otherwise : Drive} (hm : middle.name ∈ reachable graph status)
    (ht : target.name ∉ reachable graph middle.name) :
    w.Ends s (toProgram s.path (through (offers (graph.filter (·.source = status))) middle target stuck
      otherwise)) (.error (.transition stuck)) [middle.name] middle.name := by
  obtain ⟨x, hx, hname, hid⟩ := offer_of_mem hm
  rw [through, hid, ← hname]
  refine ends_perform h hx fun w' hw' => ends_fetching hw' fun w'' hw'' => ?_
  rw [hname] at hw'' ⊢
  rw [offered_of_notMem _ ht]
  exact ends_done hw''

theorem through_of_notMem {middle target : State} (stuck : TransitionError) (otherwise : Drive)
    (hm : middle.name ∉ reachable graph status) :
    through (offers (graph.filter (·.source = status))) middle target stuck otherwise = otherwise := by
  rw [through, no_offer hm]

/-! ## The whole table -/

theorem toward_of_nil (h : w.Stands s graph status) (hnil : reachable graph status = []) (target : State) :
    w.Ends s (toProgram s.path (toward target)) (.error (.transition .noneAvailable)) [] status := by
  have hoffers : (offers (graph.filter (·.source = status))).isEmpty = true := by
    simpa [offers, reachable] using hnil
  refine ends_fetching h fun w' hw' => ?_
  rw [if_pos hoffers]
  exact ends_done hw'

theorem toward_of_ne_nil (h : w.Stands s graph status) (hne : reachable graph status ≠ []) {target : State}
    (hrow : ∀ w' : World, w'.Stands s graph status →
      w'.Ends s (toProgram s.path (choose (offers (graph.filter (·.source = status))) target))
        result moves last) :
    w.Ends s (toProgram s.path (toward target)) result moves last := by
  have hoffers : ¬ (offers (graph.filter (·.source = status))).isEmpty = true := by
    simpa [offers, reachable] using hne
  refine ends_fetching h fun w' hw' => ?_
  rw [if_neg hoffers]
  exact hrow w' hw'

end Workflow.Drive

end IssueTracker
