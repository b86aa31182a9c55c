import IssueTracker.Workflow
/-!
# Drives whatever is answered

A drive sees of a tracker only what its calls are answered. Nothing is assumed about who answers:
the offer may change between two fetches, and any call may fail. `Course` lists the ways that a
drive can go; what can be said of all of them follows by going through the list. A run against a
script and a run on a tracker are two of those who answer.
-/

namespace IssueTracker.Workflow.Drive

variable {σ : Type}

/-! ## Who answers -/

/-- Somebody who answers the calls of a drive, with a state of type `σ`. -/
structure Host (σ : Type) where
  fetch : σ → σ × Except TrackerError Transitions
  perform : String → σ → σ × Except TrackerError Unit

/-- A call and its answer. -/
inductive Exchange where
  | fetch (answer : Except TrackerError Transitions)
  | perform (id : String) (answer : Except TrackerError Unit)

namespace Exchange

/-- The call. -/
def event : Exchange → Event
  | fetch _ => .fetch
  | perform id _ => .perform id

/-- The error that was answered. -/
def error? : Exchange → Option TrackerError
  | fetch (.error e) => some e
  | perform _ (.error e) => some e
  | _ => none

/-- Whether a transition was asked for. -/
def isPerform : Exchange → Bool
  | fetch _ => false
  | perform _ _ => true

end Exchange

/-- The calls of a drive with their answers, and its result. -/
structure Conversation where
  exchanges : List Exchange
  result : Except TrackerError Unit

/-- The conversation with one more exchange in front. -/
def Conversation.after (x : Exchange) (c : Conversation) : Conversation := { c with exchanges := x :: c.exchanges }

/-- What a drive says to a host, and what comes of it. -/
def converse (host : Host σ) : Drive → σ → Conversation
  | .done result, _ => ⟨[], result⟩
  | .warn _ rest, st => converse host rest st
  | .fetch next, st =>
    let (st, answer) := host.fetch st
    (converse host (next answer) st).after (.fetch answer)
  | .perform id next, st =>
    let (st, answer) := host.perform id st
    (converse host (next answer) st).after (.perform id answer)

/-! ## The courses of a drive -/

/-- The state on the way to another, and the error of who gets no further than there. -/
def via? : State → Option (State × TransitionError)
  | .resolved => some (.opened, .resolvedViaOpen)
  | .closed => some (.resolved, .closedViaResolved)
  | .opened => none

/-- The result where neither the state nor the one on the way to it is offered. -/
def unmoved : State → Except TrackerError Unit
  | .resolved => .ok ()
  | target => .error (.transition (.unreachable target))

/-- A state is not offered, but the one on the way to it is, by an id. -/
def Hops (available : Transitions) (target : State) (id : String) (stuck : TransitionError) : Prop :=
  available.idTo? target.name = none ∧
    ∃ middle, via? target = some (middle, stuck) ∧ available.idTo? middle.name = some id

/-- The ways in which a drive to a state can go. -/
inductive Course (target : State) : Conversation → Prop
  | unseen {e : TrackerError} : Course target ⟨[.fetch (.error e)], .error e⟩
  | nothingOffered : Course target ⟨[.fetch (.ok [])], .error (.transition .noneAvailable)⟩
  | unmoved {available : Transitions} : available ≠ [] → available.idTo? target.name = none →
      (∀ middle stuck, via? target = some (middle, stuck) → available.idTo? middle.name = none) →
      Course target ⟨[.fetch (.ok available)], unmoved target⟩
  | direct {available : Transitions} {id : String} {answer : Except TrackerError Unit} :
      available.idTo? target.name = some id →
      Course target ⟨[.fetch (.ok available), .perform id answer], answer⟩
  | hopFailed {available : Transitions} {id : String} {stuck : TransitionError} {e : TrackerError} :
      Hops available target id stuck →
      Course target ⟨[.fetch (.ok available), .perform id (.error e)], .error e⟩
  | unseenAgain {available : Transitions} {id : String} {stuck : TransitionError} {e : TrackerError} :
      Hops available target id stuck →
      Course target ⟨[.fetch (.ok available), .perform id (.ok ()), .fetch (.error e)], .error e⟩
  | stuck {available again : Transitions} {id : String} {stuck : TransitionError} :
      Hops available target id stuck → again.idTo? target.name = none →
      Course target ⟨[.fetch (.ok available), .perform id (.ok ()), .fetch (.ok again)], .error (.transition stuck)⟩
  | through {available again : Transitions} {id id' : String} {stuck : TransitionError}
      {answer : Except TrackerError Unit} :
      Hops available target id stuck → again.idTo? target.name = some id' →
      Course target ⟨[.fetch (.ok available), .perform id (.ok ()), .fetch (.ok again), .perform id' answer], answer⟩

section Courses

variable {host : Host σ} {available : Transitions} {target middle : State} {stuck : TransitionError}
  {otherwise : Drive} {st : σ}

/-- An offer of the state itself is taken, and that is the end. -/
theorem course_offered {id : String} (hid : available.idTo? target.name = some id) :
    Course target (((offered available target otherwise).converse host st).after (.fetch (.ok available))) := by
  rw [offered, hid]
  exact .direct hid

/-- An offer of the state on the way is taken, and what is offered then decides. -/
theorem course_through {id : String} (hvia : via? target = some (middle, stuck))
    (hid : available.idTo? target.name = none) (hmiddle : available.idTo? middle.name = some id) :
    Course target (((through available middle target stuck otherwise).converse host st).after
      (.fetch (.ok available))) := by
  have hops : Hops available target id stuck := ⟨hid, middle, hvia, hmiddle⟩
  rw [through, hmiddle]
  simp only [hop, converse]
  cases (host.perform id st).2 with
  | error e => exact .hopFailed hops
  | ok _ =>
    simp only [fetching, converse]
    cases (host.fetch (host.perform id st).1).2 with
    | error e => exact .unseenAgain hops
    | ok again =>
      cases hagain : again.idTo? target.name with
      | none =>
        simp only [offered, hagain]
        exact .stuck hops hagain
      | some id' =>
        simp only [offered, hagain]
        exact .through hops hagain

theorem offered_of_none (hid : available.idTo? target.name = none) :
    offered available target otherwise = otherwise := by
  rw [offered, hid]

theorem through_of_none (hmiddle : available.idTo? middle.name = none) :
    through available middle target stuck otherwise = otherwise := by
  rw [through, hmiddle]

theorem course_choose (hne : available ≠ []) (target : State) :
    Course target (((choose available target).converse host st).after (.fetch (.ok available))) := by
  cases hid : available.idTo? target.name with
  | some id => cases target <;> exact course_offered hid
  | none =>
    cases target with
    | opened =>
      rw [choose, offered_of_none hid]
      exact .unmoved hne hid fun middle stuck hvia => by cases hvia
    | resolved =>
      rw [choose, offered_of_none hid]
      cases hmiddle : available.idTo? State.opened.name with
      | some id => exact course_through rfl hid hmiddle
      | none =>
        rw [through_of_none hmiddle]
        exact .unmoved hne hid fun middle stuck hvia => by cases hvia; exact hmiddle
    | closed =>
      rw [choose, offered_of_none hid]
      cases hmiddle : available.idTo? State.resolved.name with
      | some id => exact course_through rfl hid hmiddle
      | none =>
        rw [through_of_none hmiddle]
        exact .unmoved hne hid fun middle stuck hvia => by cases hvia; exact hmiddle

end Courses

/-- Every drive to a state takes one of the courses, whoever answers. -/
theorem course_toward (host : Host σ) (target : State) (st : σ) : Course target ((toward target).converse host st) := by
  simp only [toward, fetching, converse]
  cases (host.fetch st).2 with
  | error e => exact .unseen
  | ok available =>
    cases available with
    | nil => exact .nothingOffered
    | cons x rest => exact course_choose (by simp) target

/-! ## What all courses have in common -/

namespace Course

variable {target : State} {c : Conversation}

/-- The calls are fetch, perform, fetch, perform, or the first of these. -/
theorem events_prefix (h : Course target c) :
    ∃ id id', c.exchanges.map Exchange.event <+: [.fetch, .perform id, .fetch, .perform id'] := by
  cases h with
  | unseen | nothingOffered | unmoved => exact ⟨"", "", by simp [Exchange.event]⟩
  | @direct _ id | @hopFailed _ id | @unseenAgain _ id | @stuck _ _ id =>
    exact ⟨id, "", by simp [Exchange.event]⟩
  | @through _ _ id id' => exact ⟨id, id', by simp [Exchange.event]⟩

/-- An id that is performed was just offered for a state. -/
theorem offered_of_perform (h : Course target c) {i : Nat} {id : String} {answer : Except TrackerError Unit}
    (hi : c.exchanges[i]? = some (.perform id answer)) :
    ∃ j available, i = j + 1 ∧ c.exchanges[j]? = some (.fetch (.ok available)) ∧
      ∃ s : State, available.idTo? s.name = some id := by
  -- Transitions are performed at the second place and at the fourth.
  cases h with
  | unseen | nothingOffered | unmoved => rcases i with _ | i <;> cases hi
  | @direct available _ _ hid =>
    rcases i with _ | _ | i <;> cases hi
    exact ⟨0, available, rfl, rfl, target, hid⟩
  | @hopFailed available _ _ _ hops =>
    rcases i with _ | _ | i <;> cases hi
    obtain ⟨-, middle, -, hid⟩ := hops
    exact ⟨0, available, rfl, rfl, middle, hid⟩
  | @unseenAgain available _ _ _ hops | @stuck available _ _ _ hops _ =>
    rcases i with _ | _ | _ | i <;> cases hi
    obtain ⟨-, middle, -, hid⟩ := hops
    exact ⟨0, available, rfl, rfl, middle, hid⟩
  | @through available again _ _ _ _ hops hid' =>
    rcases i with _ | _ | _ | _ | i <;> cases hi
    · obtain ⟨-, middle, -, hid⟩ := hops
      exact ⟨0, available, rfl, rfl, middle, hid⟩
    · exact ⟨2, again, rfl, rfl, target, hid'⟩

/-- A transition is performed unless neither the state nor the one on the way to it is offered. -/
theorem no_perform_iff (h : Course target c) {available : Transitions}
    (hc : c.exchanges.head? = some (.fetch (.ok available))) :
    c.exchanges.countP Exchange.isPerform = 0 ↔ available.idTo? target.name = none ∧
      ∀ middle stuck, via? target = some (middle, stuck) → available.idTo? middle.name = none := by
  cases h with
  | unseen => cases hc
  | nothingOffered =>
    cases hc
    exact ⟨fun _ => ⟨rfl, fun _ _ _ => rfl⟩, fun _ => rfl⟩
  | unmoved _ hid hmiddle =>
    cases hc
    exact ⟨fun _ => ⟨hid, hmiddle⟩, fun _ => rfl⟩
  | direct hid =>
    cases hc
    simp [Exchange.isPerform, hid]
  | hopFailed hops | unseenAgain hops | stuck hops | through hops =>
    cases hc
    obtain ⟨-, middle, hvia, hid⟩ := hops
    refine ⟨by simp [Exchange.isPerform], fun h => ?_⟩
    rw [h.2 middle _ hvia] at hid
    cases hid

/-- The first transition goes to the state if it is offered, and that is the end; otherwise it goes to
the state on the way, and what is fetched next is asked for the state itself alone. -/
theorem first_perform (h : Course target c) {available : Transitions} {id : String}
    {answer : Except TrackerError Unit} {rest : List Exchange}
    (hc : c.exchanges = .fetch (.ok available) :: .perform id answer :: rest) :
    (available.idTo? target.name = some id ∧ rest = []) ∨
      (∃ stuck, Hops available target id stuck) ∧ (rest ≠ [] ↔ answer = .ok ()) ∧
        ∀ id' answer', .perform id' answer' ∈ rest →
          ∃ again, rest = [.fetch (.ok again), .perform id' answer'] ∧ again.idTo? target.name = some id' := by
  cases h with
  | unseen | nothingOffered | unmoved => cases hc
  | direct hid =>
    cases hc
    exact .inl ⟨hid, rfl⟩
  | hopFailed hops =>
    cases hc
    exact .inr ⟨⟨_, hops⟩, by simp, by simp⟩
  | unseenAgain hops =>
    cases hc
    exact .inr ⟨⟨_, hops⟩, by simp, by simp⟩
  | stuck hops _ =>
    cases hc
    exact .inr ⟨⟨_, hops⟩, by simp, by simp⟩
  | through hops hid' =>
    cases hc
    refine .inr ⟨⟨_, hops⟩, by simp, fun id' answer' hmem => ?_⟩
    obtain ⟨rfl, rfl⟩ : id' = _ ∧ answer' = _ := by simpa using hmem
    exact ⟨_, rfl, hid'⟩

/-- An error that is answered is the result, and nothing is called after it. -/
theorem error_last (h : Course target c) {i : Nat} {x : Exchange} {e : TrackerError} (hi : c.exchanges[i]? = some x)
    (he : x.error? = some e) : c.result = .error e ∧ c.exchanges.length = i + 1 := by
  cases h with
  | unseen =>
    rcases i with _ | i <;> cases hi
    cases he
    exact ⟨rfl, rfl⟩
  | nothingOffered | unmoved =>
    rcases i with _ | i <;> cases hi
    cases he
  | @direct _ _ answer =>
    rcases i with _ | _ | i <;> cases hi
    · cases he
    · cases answer <;> cases he
      exact ⟨rfl, rfl⟩
  | hopFailed =>
    rcases i with _ | _ | i <;> cases hi <;> cases he
    exact ⟨rfl, rfl⟩
  | unseenAgain =>
    rcases i with _ | _ | _ | i <;> cases hi <;> cases he
    exact ⟨rfl, rfl⟩
  | stuck => rcases i with _ | _ | _ | i <;> cases hi <;> cases he
  | @through _ _ _ _ _ answer =>
    rcases i with _ | _ | _ | _ | i <;> cases hi
    · cases he
    · cases he
    · cases he
    · cases answer <;> cases he
      exact ⟨rfl, rfl⟩

/-- A drive ends well with a transition to the state that was just offered, or, where there is nothing
to resolve, without any. -/
theorem result_eq_ok_iff (h : Course target c) :
    c.result = .ok () ↔
      (∃ available id, [.fetch (.ok available), .perform id (.ok ())] <:+ c.exchanges ∧
        available.idTo? target.name = some id) ∨
      (target = .resolved ∧ ∃ available, c.exchanges = [.fetch (.ok available)] ∧ available ≠ [] ∧
        available.idTo? State.resolved.name = none ∧ available.idTo? State.opened.name = none) := by
  cases h with
  | unseen | nothingOffered | hopFailed | unseenAgain | stuck => simp [List.suffix_cons_iff]
  | @unmoved available hne hid hmiddle =>
    cases target with
    | resolved =>
      have hopened := hmiddle .opened .resolvedViaOpen rfl
      exact ⟨fun _ => .inr ⟨rfl, available, rfl, hne, hid, hopened⟩, fun _ => rfl⟩
    | opened | closed => simp [List.suffix_cons_iff, Drive.unmoved]
  | @direct available id answer hid =>
    constructor
    · rintro rfl
      exact .inl ⟨available, id, List.suffix_rfl, hid⟩
    · rintro (⟨available', id', ⟨before, hbefore⟩, -⟩ | ⟨-, available', hsingle, -⟩)
      · have hlast : id' = id ∧ .ok () = answer := by simpa using congrArg List.getLast? hbefore
        exact hlast.2.symm
      · cases hsingle
  | @through available again id id' _ answer hops hid' =>
    constructor
    · rintro rfl
      exact .inl ⟨again, id', ⟨[.fetch (.ok available), .perform id (.ok ())], rfl⟩, hid'⟩
    · rintro (⟨available', id'', ⟨before, hbefore⟩, -⟩ | ⟨-, available', hsingle, -⟩)
      · have hlast : id'' = id' ∧ .ok () = answer := by simpa using congrArg List.getLast? hbefore
        exact hlast.2.symm
      · cases hsingle

/-- An empty offer is an error of its own. -/
theorem result_of_nil (h : Course target c) (hc : c.exchanges.head? = some (.fetch (.ok []))) :
    c.result = .error (.transition .noneAvailable) := by
  cases h with
  | unseen => cases hc
  | nothingOffered => rfl
  | unmoved hne => cases hc; exact absurd rfl hne
  | direct hid => cases hc; cases hid
  | hopFailed hops | unseenAgain hops | stuck hops | through hops =>
    cases hc
    obtain ⟨-, _, -, hid⟩ := hops
    cases hid

/-- Where no call fails, a drive fails because nothing is offered, because the state and the one on the
way to it are not, or because the state is not offered after the hop. -/
theorem result_eq_error (h : Course target c) (hc : ∀ x ∈ c.exchanges, x.error? = none) {e : TrackerError}
    (he : c.result = .error e) :
    (e = .transition .noneAvailable ∧ c.exchanges = [.fetch (.ok [])]) ∨
      (e = .transition (.unreachable target) ∧ ∃ available, c.exchanges = [.fetch (.ok available)]) ∨
      ∃ middle stuck, via? target = some (middle, stuck) ∧ e = .transition stuck ∧
        ∃ available id again, c.exchanges = [.fetch (.ok available), .perform id (.ok ()), .fetch (.ok again)] := by
  cases h with
  | unseen | hopFailed | unseenAgain => simp [Exchange.error?] at hc
  | nothingOffered => exact .inl ⟨(Except.error.inj he).symm, rfl⟩
  | @unmoved available =>
    cases target with
    | resolved => cases he
    | opened | closed => exact .inr (.inl ⟨(Except.error.inj he).symm, available, rfl⟩)
  | direct | through =>
    -- The result is the answer to the last call, which was no error.
    obtain rfl := he
    simp [Exchange.error?] at hc
  | @stuck available again id stuck hops =>
    obtain ⟨-, middle, hvia, -⟩ := hops
    exact .inr (.inr ⟨middle, stuck, hvia, (Except.error.inj he).symm, available, id, again, rfl⟩)

end Course

/-- What a drive to a state says, whoever answers. Its calls are fetch, perform, fetch, perform, or the
first of these. An id is only performed right after it was offered. The first transition goes to the state
if that is offered; only if not does it go to the state on the way, and then what is fetched again is asked
for the state itself alone. Once an offer is there, no transition is performed exactly if neither of the two is
in it. An error that is answered is the result, and ends everything. Where none is, each error of the drive's
own has one occasion. The drive ends well with a transition to the state that was just offered, or where there
is nothing to resolve. -/
theorem converse_toward (host : Host σ) (target : State) (st : σ) :
    let c := (toward target).converse host st
    (∃ id id', c.exchanges.map Exchange.event <+: [.fetch, .perform id, .fetch, .perform id']) ∧
    (∀ i id answer, c.exchanges[i]? = some (.perform id answer) →
      ∃ j available, i = j + 1 ∧ c.exchanges[j]? = some (.fetch (.ok available)) ∧
        ∃ s : State, available.idTo? s.name = some id) ∧
    (∀ available id answer rest, c.exchanges = .fetch (.ok available) :: .perform id answer :: rest →
      (available.idTo? target.name = some id ∧ rest = []) ∨
      (∃ stuck, Hops available target id stuck) ∧ (rest ≠ [] ↔ answer = .ok ()) ∧
        ∀ id' answer', .perform id' answer' ∈ rest →
          ∃ again, rest = [.fetch (.ok again), .perform id' answer'] ∧ again.idTo? target.name = some id') ∧
    (∀ available, c.exchanges.head? = some (.fetch (.ok available)) →
      (c.exchanges.countP Exchange.isPerform = 0 ↔ available.idTo? target.name = none ∧
        ∀ middle stuck, via? target = some (middle, stuck) → available.idTo? middle.name = none)) ∧
    (∀ i x e, c.exchanges[i]? = some x → x.error? = some e →
      c.result = .error e ∧ c.exchanges.length = i + 1) ∧
    ((∀ x ∈ c.exchanges, x.error? = none) →
      (c.result = .error (.transition .noneAvailable) ↔ c.exchanges.head? = some (.fetch (.ok []))) ∧
      (∀ s, c.result = .error (.transition (.unreachable s)) → s = target ∧
        c.exchanges.countP Exchange.isPerform = 0) ∧
      (∀ stuck ∈ [TransitionError.resolvedViaOpen, .closedViaResolved], c.result = .error (.transition stuck) →
        c.exchanges.countP Exchange.isPerform = 1 ∧ c.exchanges.countP (!Exchange.isPerform ·) = 2)) ∧
    (c.result = .ok () ↔
      (∃ available id, [.fetch (.ok available), .perform id (.ok ())] <:+ c.exchanges ∧
        available.idTo? target.name = some id) ∨
      (target = .resolved ∧ ∃ available, c.exchanges = [.fetch (.ok available)] ∧ available ≠ [] ∧
        available.idTo? State.resolved.name = none ∧ available.idTo? State.opened.name = none)) := by
  intro c
  have h : Course target c := course_toward host target st
  refine ⟨h.events_prefix, fun i id answer => h.offered_of_perform, fun _ _ _ _ => h.first_perform,
    fun _ => h.no_perform_iff, fun i x e => h.error_last, fun hc => ⟨⟨?_, h.result_of_nil⟩, ?_, ?_⟩, h.result_eq_ok_iff⟩
  · intro he
    rcases h.result_eq_error hc he with ⟨-, heq⟩ | ⟨hcause, -⟩ | ⟨middle, stuck, hvia, hcause, -⟩
    · rw [heq]
      rfl
    · cases hcause
    · cases hcause
      cases target <;> cases hvia
  · intro s he
    rcases h.result_eq_error hc he with ⟨hcause, -⟩ | ⟨hcause, available, heq⟩ | ⟨middle, stuck, hvia, hcause, -⟩
    · cases hcause
    · cases hcause
      exact ⟨rfl, by rw [heq]; rfl⟩
    · cases hcause
      cases target <;> cases hvia
  · intro stuck hstuck he
    rcases h.result_eq_error hc he with
      ⟨hcause, -⟩ | ⟨hcause, -⟩ | ⟨middle, stuck', hvia, hcause, available, id, again, heq⟩
    · cases hcause
      simp at hstuck
    · cases hcause
      simp at hstuck
    · rw [heq]
      exact ⟨rfl, rfl⟩

/-- A host whose offer has changed by the second fetch, and who refuses one transition. -/
def Host.reluctant : Host Nat where
  fetch
    | 0 => (1, .ok [("Open", "3"), ("In Progress", "5")])
    | n => (n, .ok [("Open", "4"), ("Resolved", "5")])
  perform id n := (n, if id = "5" then .error (.status 409 "locked") else .ok ())

/-- The id from the second offer is performed, and its refusal is the last word. -/
theorem converse_reluctant :
    let c := (toward .resolved).converse Host.reluctant 0
    c.exchanges[3]? = some (.perform "5" (.error (.status 409 "locked"))) ∧
      (Exchange.perform "5" (.error (.status 409 "locked"))).error? = some (.status 409 "locked") ∧
      c.result = .error (.status 409 "locked") ∧ c.exchanges.length = 4 := by
  intro c
  have hlast : c.exchanges[3]? = some (.perform "5" (.error (.status 409 "locked"))) := rfl
  exact ⟨hlast, rfl, (converse_toward Host.reluctant .resolved 0).2.2.2.2.1 3 _ _ hlast rfl⟩

/-! ## Scripts and trackers -/

/-- A host that answers the fetches in turn, and each transition by its id. -/
def Host.scripted (perform : String → Except TrackerError Unit) : Host (List (Except TrackerError Transitions)) where
  fetch
    | [] => ([], .ok [])
    | answer :: rest => (rest, answer)
  perform id fetches := (fetches, perform id)

/-- A run against a script is a conversation. -/
theorem run_eq_converse (perform : String → Except TrackerError Unit) (d : Drive)
    (fetches : List (Except TrackerError Transitions)) :
    (run perform d fetches).events = (d.converse (.scripted perform) fetches).exchanges.map Exchange.event ∧
      (run perform d fetches).result = (d.converse (.scripted perform) fetches).result := by
  induction d generalizing fetches with
  | done result => exact ⟨rfl, rfl⟩
  | warn w rest ih => exact ih fetches
  | fetch next ih =>
    cases fetches with
    | nil =>
      obtain ⟨hevents, hresult⟩ := ih (.ok []) []
      exact ⟨congrArg (List.cons _) hevents, hresult⟩
    | cons answer rest =>
      obtain ⟨hevents, hresult⟩ := ih answer rest
      exact ⟨congrArg (List.cons _) hevents, hresult⟩
  | perform id next ih =>
    obtain ⟨hevents, hresult⟩ := ih (perform id) fetches
    exact ⟨congrArg (List.cons _) hevents, hresult⟩

/-- The request for a call about the issue of a path. -/
def Event.request (issuePath : String) : Event → Request
  | fetch => .get (issuePath ++ "/transitions")
  | perform id => .post (issuePath ++ "/transitions") (transitionBody id)

/-- A host that asks whoever answers requests. -/
def Host.remote (respond : Program.Responder σ) (issuePath : String) : Host σ where
  fetch st :=
    let r := Event.fetch.request issuePath
    let (st, answer) := respond st r
    (st, (r.settle answer).bind readTransitions)
  perform id st :=
    let r := (Event.perform id).request issuePath
    let (st, answer) := respond st r
    (st, (r.settle answer).map fun _ => ())

/-- The program of a drive is a conversation by requests. -/
theorem run_toProgram (respond : Program.Responder σ) (issuePath : String) (d : Drive) (st : σ)
    (memory : Option (List LinkType)) :
    let o := Program.run respond (d.toProgram issuePath) st memory
    let c := d.converse (.remote respond issuePath) st
    o.calls = c.exchanges.map (·.event.request issuePath) ∧ o.result = c.result := by
  induction d generalizing st with
  | done result => exact ⟨rfl, rfl⟩
  | warn w rest ih => exact ih st
  | fetch next ih =>
    obtain ⟨hcalls, hresult⟩ := ih _ _
    exact ⟨congrArg (List.cons _) hcalls, hresult⟩
  | perform id next ih =>
    obtain ⟨hcalls, hresult⟩ := ih _ _
    exact ⟨congrArg (List.cons _) hcalls, hresult⟩

end IssueTracker.Workflow.Drive
