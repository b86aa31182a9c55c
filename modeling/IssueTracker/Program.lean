import IssueTracker.Link.Type
import IssueTracker.Request
import IssueTracker.Warning
/-!
# Programs

What an operation does, as data: the requests it makes, each depending on the answers before,
the warnings it gives, and the one thing a project remembers, its vocabulary of link types. A
program never depends on who answers, so one definition serves every tracker.
-/

namespace IssueTracker

/-- An operation with a result of type `α`. -/
inductive Program (α : Type) where
  | done (result : Except TrackerError α)
  | warn (warning : Warning) (rest : Program α)
  | call (request : Request) (next : Answer → Program α)
  | consult (next : Option (List LinkType) → Program α)
  | remember (types : List LinkType) (rest : Program α)

namespace Program

variable {α β γ : Type}

/-- Goes on with a result; an error ends everything. -/
def bind : Program α → (α → Program β) → Program β
  | .done (.ok a), f => f a
  | .done (.error e), _ => .done (.error e)
  | .warn w rest, f => .warn w (bind rest f)
  | .call r next, f => .call r fun answer => bind (next answer) f
  | .consult next, f => .consult fun memory => bind (next memory) f
  | .remember types rest, f => .remember types (bind rest f)

instance : Monad Program where
  pure a := .done (.ok a)
  bind := bind

/-- A computation without requests. -/
instance : MonadLift (Except TrackerError) Program := ⟨.done⟩

/-- Fails. -/
def fail (e : TrackerError) : Program α := .done (.error e)

/-- Gives warnings, then goes on. -/
def warnAll (warnings : List Warning) (rest : Program α) : Program α :=
  warnings.foldr .warn rest

/-- A value together with warnings. -/
def logged : Except TrackerError (α × List Warning) → Program α
  | .ok (a, warnings) => warnAll warnings (.done (.ok a))
  | .error e => .done (.error e)

/-- Makes a request and settles its answer. -/
def execute (request : Request) : Program Json :=
  .call request fun answer => .done (request.settle answer)

/-- Makes a request whose document does not matter. -/
def perform (request : Request) : Program Unit :=
  .call request fun answer => .done ((request.settle answer).map fun _ => ())

/-- The program with its error as part of its result. -/
def attempt : Program α → Program (Except TrackerError α)
  | .done result => .done (.ok result)
  | .warn w rest => .warn w (attempt rest)
  | .call r next => .call r fun answer => attempt (next answer)
  | .consult next => .consult fun memory => attempt (next memory)
  | .remember types rest => .remember types (attempt rest)

/-! ## Laws -/

theorem bind_done_ok (p : Program α) : bind p (fun a => .done (.ok a)) = p := by
  induction p with
  | done r => cases r <;> rfl
  | warn w rest ih => simp only [bind, ih]
  | call r next ih => simp only [bind, ih]
  | consult next ih => simp only [bind, ih]
  | remember t rest ih => simp only [bind, ih]

theorem bind_bind (p : Program α) (f : α → Program β) (g : β → Program γ) :
    bind (bind p f) g = bind p fun a => bind (f a) g := by
  induction p with
  | done r => cases r <;> rfl
  | warn w rest ih => simp only [bind, ih]
  | call r next ih => simp only [bind, ih]
  | consult next ih => simp only [bind, ih]
  | remember t rest ih => simp only [bind, ih]

instance : LawfulMonad Program := LawfulMonad.mk' _
  (fun p => bind_done_ok p) (fun _ _ => rfl) (fun p f g => bind_bind p f g)

/-! ## Running -/

/-- Somebody who answers requests, with a state of type `σ`. -/
abbrev Responder (σ : Type) := σ → Request → σ × Answer

/-- What has happened when a program ends. -/
structure Outcome (σ α : Type) where
  result : Except TrackerError α
  state : σ
  memory : Option (List LinkType)
  calls : List Request
  warnings : List Warning

/-- Adds a request to the front of what happened. -/
def Outcome.afterCall {σ : Type} (o : Outcome σ α) (r : Request) : Outcome σ α :=
  { o with calls := r :: o.calls }

/-- Adds a warning to the front of what happened. -/
def Outcome.afterWarning {σ : Type} (o : Outcome σ α) (w : Warning) : Outcome σ α :=
  { o with warnings := w :: o.warnings }

/-- Runs a program against a responder. -/
def run {σ : Type} (respond : Responder σ) : Program α → σ → Option (List LinkType) → Outcome σ α
  | .done result, state, memory => ⟨result, state, memory, [], []⟩
  | .warn w rest, state, memory => (run respond rest state memory).afterWarning w
  | .call r next, state, memory =>
    let (state, answer) := respond state r
    (run respond (next answer) state memory).afterCall r
  | .consult next, state, memory => run respond (next memory) state memory
  | .remember types rest, state, _ => run respond rest state (some types)

/-- Answers each request with the next answer of a script; past its end there is a status. -/
def scripted : Responder (List Answer)
  | [], _ => ([], .error (.status 599 "script exhausted"))
  | answer :: rest, _ => (rest, answer)

end Program

end IssueTracker
