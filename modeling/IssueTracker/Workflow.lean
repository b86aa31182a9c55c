import IssueTracker.Program
import IssueTracker.Document
/-!
# Workflows

Driving an issue to a state through the transitions that the tracker offers. A tracker only
offers transitions from the current status, and its status graph need not be connected. The
graph is not searched; a fixed table follows the usual order Open, Resolved, Closed:

| target   | direct   | by one hop              | otherwise              |
|----------|----------|-------------------------|------------------------|
| resolved | Resolved | Open, then Resolved     | nothing, with a warning |
| closed   | Closed   | Resolved, then Closed   | an error               |
| open     | Open     |                         | an error               |

The transitions are fetched again after a hop. A failure after the hop leaves the issue in
between.
-/

namespace IssueTracker

/-- The offered transitions: the status each leads to and its id. -/
abbrev Transitions := List (String × String)

/-- The id of the transition to a status, the last of several. -/
def Transitions.idTo? (available : Transitions) (status : String) : Option String :=
  (available.reverse.find? (·.1 = status)).map (·.2)

namespace Workflow

/-- Steps through a workflow: fetching what is offered and performing a transition. -/
inductive Drive where
  | done (result : Except TrackerError Unit)
  | warn (warning : Warning) (rest : Drive)
  | fetch (next : Except TrackerError Transitions → Drive)
  | perform (id : String) (next : Except TrackerError Unit → Drive)

namespace Drive

/-- Ends with an error. -/
def fail (cause : TransitionError) : Drive := .done (.error (.transition cause))

/-- Fetches and goes on with what is offered. -/
def fetching (next : Transitions → Drive) : Drive :=
  .fetch fun
    | .ok available => next available
    | .error e => .done (.error e)

/-- Performs a transition and ends. -/
def finish (id : String) : Drive := .perform id .done

/-- Performs a transition and goes on. -/
def hop (id : String) (next : Drive) : Drive :=
  .perform id fun
    | .ok () => next
    | .error e => .done (.error e)

/-- Performs the transition to a state if it is offered. -/
def offered (available : Transitions) (target : State) (otherwise : Drive) : Drive :=
  match available.idTo? target.name with
  | some id => finish id
  | none => otherwise

/-- Performs the transition to a state if it is offered, and from there the one to another. -/
def through (available : Transitions) (middle target : State) (stuck : TransitionError)
    (otherwise : Drive) : Drive :=
  match available.idTo? middle.name with
  | some id => hop id (fetching fun again => offered again target (fail stuck))
  | none => otherwise

/-- The row of the table for a state. -/
def choose (available : Transitions) : State → Drive
  | .resolved =>
    offered available .resolved <|
      through available .opened .resolved .resolvedViaOpen <|
        .warn .nothingToResolve (.done (.ok ()))
  | .closed =>
    offered available .closed <|
      through available .resolved .closed .closedViaResolved <|
        fail (.unreachable .closed)
  | .opened => offered available .opened (fail (.unreachable .opened))

/-- The steps that bring an issue into a state. -/
def toward (target : State) : Drive :=
  fetching fun available =>
    if available.isEmpty then fail .noneAvailable else choose available target

/-! ## Against a script -/

/-- A step as it can be observed. -/
inductive Event where
  | fetch
  | perform (id : String)
  deriving DecidableEq, Repr

/-- What has happened when the steps end. -/
structure Outcome where
  events : List Event
  warnings : List Warning
  result : Except TrackerError Unit

/-- Runs the steps. The fetches answer in turn, and nothing is offered past their end. -/
def run (perform : String → Except TrackerError Unit) :
    Drive → List (Except TrackerError Transitions) → Outcome
  | .done result, _ => ⟨[], [], result⟩
  | .warn w rest, fetches =>
    let o := run perform rest fetches
    { o with warnings := w :: o.warnings }
  | .fetch next, [] =>
    let o := run perform (next (.ok [])) []
    { o with events := .fetch :: o.events }
  | .fetch next, answer :: fetches =>
    let o := run perform (next answer) fetches
    { o with events := .fetch :: o.events }
  | .perform id next, fetches =>
    let o := run perform (next (perform id)) fetches
    { o with events := .perform id :: o.events }

/-! ## On the tracker -/

open Json (Pointer)

/-- One offered transition. -/
def readTransition (doc : Json) : Except TrackerError (String × String) := do
  let status ← doc.stringAt (.ofKeys ["to", "name"])
  let id ← doc.idAt (.ofKeys ["id"])
  return (status, id)

/-- The offered transitions of a document. -/
def readTransitions (doc : Json) : Except TrackerError Transitions :=
  (doc.itemsAt (.ofKeys ["transitions"])).mapM readTransition

/-- The body that performs a transition. -/
def transitionBody (id : String) : Json :=
  .ofMembers [("transition", .ofMembers [("id", .str id)])]

/-- The requests that take the steps for an issue. -/
def toProgram (issuePath : String) : Drive → Program Unit
  | .done result => .done result
  | .warn w rest => .warn w (toProgram issuePath rest)
  | .fetch next =>
    let request := Request.get (issuePath ++ "/transitions")
    .call request fun answer =>
      toProgram issuePath (next ((request.settle answer).bind readTransitions))
  | .perform id next =>
    let request := Request.post (issuePath ++ "/transitions") (transitionBody id)
    .call request fun answer =>
      toProgram issuePath (next ((request.settle answer).map fun _ => ()))

end Drive

end Workflow

end IssueTracker
