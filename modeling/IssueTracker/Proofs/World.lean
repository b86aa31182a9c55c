import IssueTracker.Program
import IssueTracker.Tracker.Routes
/-!
# Programs on a tracker

What comes of a program when the tracker in memory answers it: its result, the tracker
afterwards, and the requests on the way. Sequenced programs are run one after the other, and
an error ends them.
-/

namespace IssueTracker

variable {σ α β : Type}

namespace Program

/-! ## Sequencing -/

/-- The outcome of going on after an outcome. -/
def Outcome.andThen (o : Outcome σ α) (next : α → σ → Option (List LinkType) → Outcome σ β) :
    Outcome σ β :=
  match o.result with
  | .ok a =>
    let o' := next a o.state o.memory
    { o' with calls := o.calls ++ o'.calls, warnings := o.warnings ++ o'.warnings }
  | .error e => ⟨.error e, o.state, o.memory, o.calls, o.warnings⟩

theorem run_bind (respond : Responder σ) (p : Program α) (f : α → Program β) (st : σ)
    (memory : Option (List LinkType)) :
    run respond (p >>= f) st memory =
      (run respond p st memory).andThen fun a st memory => run respond (f a) st memory := by
  -- What a warning or a request adds to an outcome stays ahead of what follows.
  induction p generalizing st memory with
  | done r => cases r <;> rfl
  | warn w rest ih =>
    refine (congrArg (Outcome.afterWarning · w) (ih st memory)).trans ?_
    simp only [run, Outcome.andThen, Outcome.afterWarning]
    split <;> rfl
  | call r next ih =>
    refine (congrArg (Outcome.afterCall · r) (ih _ (respond st r).1 memory)).trans ?_
    simp only [run, Outcome.andThen, Outcome.afterCall]
    split <;> rfl
  | consult next ih => exact ih _ st memory
  | remember types rest ih => exact ih st (some types)

end Program

/-! ## Worlds -/

/-- A tracker and what a project remembers. -/
structure World where
  tracker : Tracker
  memory : Option (List LinkType)

namespace World

/-- What comes of a program. -/
def run (w : World) (p : Program α) : Program.Outcome Tracker α :=
  Program.run Tracker.respond p w.tracker w.memory

/-- The result of a program. -/
def result (w : World) (p : Program α) : Except TrackerError α := (w.run p).result

/-- The world after a program. -/
def after (w : World) (p : Program α) : World := ⟨(w.run p).state, (w.run p).memory⟩

/-- The requests of a program. -/
def calls (w : World) (p : Program α) : List Request := (w.run p).calls

/-- The world after the tracker has answered a request. -/
def answered (w : World) (r : Request) : World := ⟨(w.tracker.respond r).1, w.memory⟩

variable (w : World)

@[simp] theorem result_done (r : Except TrackerError α) : w.result (.done r) = r := rfl
@[simp] theorem after_done (r : Except TrackerError α) : w.after (.done r) = w := rfl
@[simp] theorem calls_done (r : Except TrackerError α) : w.calls (.done r) = [] := rfl

@[simp] theorem result_pure (a : α) : w.result (pure a) = .ok a := rfl
@[simp] theorem after_pure (a : α) : w.after (pure a : Program α) = w := rfl
@[simp] theorem calls_pure (a : α) : w.calls (pure a : Program α) = [] := rfl

@[simp] theorem result_warn (x : Warning) (p : Program α) : w.result (.warn x p) = w.result p := rfl
@[simp] theorem after_warn (x : Warning) (p : Program α) : w.after (.warn x p) = w.after p := rfl
@[simp] theorem calls_warn (x : Warning) (p : Program α) : w.calls (.warn x p) = w.calls p := rfl

theorem result_call (r : Request) (next : Answer → Program α) :
    w.result (.call r next) = (w.answered r).result (next (w.tracker.respond r).2) := rfl
theorem after_call (r : Request) (next : Answer → Program α) :
    w.after (.call r next) = (w.answered r).after (next (w.tracker.respond r).2) := rfl
theorem calls_call (r : Request) (next : Answer → Program α) :
    w.calls (.call r next) = r :: (w.answered r).calls (next (w.tracker.respond r).2) := rfl

/-! ## One request -/

@[simp] theorem result_execute (r : Request) :
    w.result (.execute r) = r.settle (w.tracker.respond r).2 := rfl
@[simp] theorem after_execute (r : Request) : w.after (.execute r) = w.answered r := rfl
@[simp] theorem result_perform (r : Request) :
    w.result (.perform r) = (r.settle (w.tracker.respond r).2).map fun _ => () := rfl
@[simp] theorem after_perform (r : Request) : w.after (.perform r) = w.answered r := rfl
@[simp] theorem calls_execute (r : Request) : w.calls (.execute r) = [r] := rfl

/-! ## One program after another -/

theorem result_bind (p : Program α) (f : α → Program β) :
    w.result (p >>= f) = (w.result p).bind fun a => (w.after p).result (f a) := by
  simp only [result, after, run, Program.run_bind, Program.Outcome.andThen]
  cases (Program.run Tracker.respond p w.tracker w.memory).result <;> rfl

theorem after_bind_ok {p : Program α} {a : α} (h : w.result p = .ok a) (f : α → Program β) :
    w.after (p >>= f) = (w.after p).after (f a) := by
  simp only [result, run] at h
  simp only [after, run, Program.run_bind, Program.Outcome.andThen, h]

theorem after_bind_error {p : Program α} {e : TrackerError} (h : w.result p = .error e)
    (f : α → Program β) : w.after (p >>= f) = w.after p := by
  simp only [result, run] at h
  simp only [after, run, Program.run_bind, Program.Outcome.andThen, h]

theorem result_bind_ok {p : Program α} {a : α} (h : w.result p = .ok a) (f : α → Program β) :
    w.result (p >>= f) = (w.after p).result (f a) := by
  rw [result_bind, h]; rfl

/-- A sequence succeeds when both parts do. -/
theorem result_bind_eq_ok {p : Program α} {f : α → Program β} {b : β} :
    w.result (p >>= f) = .ok b ↔ ∃ a, w.result p = .ok a ∧ (w.after p).result (f a) = .ok b := by
  rw [result_bind]
  cases w.result p with
  | ok a => simp [Except.bind]
  | error e => simp [Except.bind]

theorem calls_bind_ok {p : Program α} {a : α} (h : w.result p = .ok a) (f : α → Program β) :
    w.calls (p >>= f) = w.calls p ++ (w.after p).calls (f a) := by
  simp only [result, run] at h
  simp only [calls, after, run, Program.run_bind, Program.Outcome.andThen, h]

theorem after_bind_pure (p : Program α) (f : α → β) : w.after (p >>= fun a => pure (f a)) = w.after p := by
  cases h : w.result p with
  | ok a => rw [after_bind_ok w h, after_pure]
  | error e => exact after_bind_error w h _

/-! ## Warnings -/

@[simp] theorem result_warnAll (ws : List Warning) (p : Program α) :
    w.result (.warnAll ws p) = w.result p := by
  induction ws with
  | nil => rfl
  | cons x ws ih => exact ih

@[simp] theorem after_warnAll (ws : List Warning) (p : Program α) :
    w.after (.warnAll ws p) = w.after p := by
  induction ws with
  | nil => rfl
  | cons x ws ih => exact ih

@[simp] theorem result_logged (r : Except TrackerError (α × List Warning)) :
    w.result (.logged r) = r.map Prod.fst := by
  cases r with
  | ok a => simp [Program.logged, Except.map]
  | error e => rfl

@[simp] theorem after_logged (r : Except TrackerError (α × List Warning)) :
    w.after (.logged r) = w := by
  cases r with
  | ok a => simp [Program.logged]
  | error e => rfl

end World

end IssueTracker
