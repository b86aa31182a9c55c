import IssueTracker.Proofs.Statusless
/-!
# Programs that fail fast

Whether the first error that is answered to a program and not expected ends it, with exactly that
error as its result. Which errors are expected is a parameter; a request that puts up with the
expected ones and no others is such a program, and sequences of such programs are.
-/

namespace IssueTracker

variable {α β σ : Type}

/-- An error that is one of some statuses. -/
def TrackerError.IsStatus (allowed : Nat → Prop) (e : TrackerError) : Prop :=
  ∃ code body, e = .status code body ∧ allowed code

namespace Program

variable {E : Nat → Request → Nat → Prop} {M P : Nat → Prop}

/-- A program that ends with the first error that is not expected. What is expected may depend on how
many requests were made before; after a success that many satisfy `P`. -/
def FailsFast (E : Nat → Request → Nat → Prop) (P : Nat → Prop) : Program α → Nat → Prop
  | .done (.ok _), n => P n
  | .done (.error e), _ => e.status? = none
  | .warn _ rest, n => FailsFast E P rest n
  | .call r next, n =>
    (∀ document, FailsFast E P (next (.ok document)) (n + 1)) ∧
      ∀ e : TrackerError, (e.IsStatus (E n r) ∧ FailsFast E P (next (.error e)) (n + 1)) ∨
        (¬ e.IsStatus (E n r) ∧ next (.error e) = .done (.error e))
  | .consult next, n => ∀ memory, FailsFast E P (next memory) n
  | .remember _ rest, n => FailsFast E P rest n

theorem FailsFast.bind {p : Program α} {f : α → Program β} {n : Nat} (hp : p.FailsFast E M n)
    (hf : ∀ a m, M m → (f a).FailsFast E P m) : (p >>= f).FailsFast E P n := by
  induction p generalizing n with
  | done r =>
    cases r with
    | ok a => exact hf a n hp
    | error e => exact hp
  | warn w rest ih => exact ih hp
  | call r next ih =>
    refine ⟨fun document => ih _ (hp.1 document), fun e => ?_⟩
    rcases hp.2 e with ⟨hexpected, hnext⟩ | ⟨hunexpected, hnext⟩
    · exact .inl ⟨hexpected, ih _ hnext⟩
    · exact .inr ⟨hunexpected, congrArg (Program.bind · f) hnext⟩
  | consult next ih => exact fun memory => ih memory (hp memory)
  | remember types rest ih => exact ih hp

variable {n : Nat}

theorem failsFast_done {x : Except TrackerError α} (hx : Statusless x) (hP : P n) :
    (Program.done x).FailsFast E P n := by
  cases x with
  | ok a => exact hP
  | error e => exact hx e rfl

theorem failsFast_warnAll {p : Program α} (ws : List Warning) (hp : p.FailsFast E P n) :
    (warnAll ws p).FailsFast E P n := by
  induction ws with
  | nil => exact hp
  | cons w ws ih => exact ih

theorem failsFast_logged {x : Except TrackerError (α × List Warning)} (hx : Statusless x) (hP : P n) :
    (logged x).FailsFast E P n := by
  cases x with
  | ok a => exact failsFast_warnAll a.2 hP
  | error e => exact hx e rfl

/-- A request puts up with what is expected, and with nothing else. -/
def Matches (E : Nat → Request → Nat → Prop) (n : Nat) (r : Request) : Prop :=
  ∀ code, E n r code ↔ (r.tolerate? code).isSome = true

theorem matches_none {r : Request} (hr : r.tolerated = []) (h : ∀ code, ¬ E n r code) : Matches E n r := by
  intro code
  simp [Request.tolerate?, hr, h code]

theorem matches_onStatus {r : Request} {status : Nat} {document : Json} (hr : r.tolerated = [])
    (h : ∀ code, E n (r.onStatus status document) code ↔ code = status) :
    Matches E n (r.onStatus status document) := by
  intro code
  rw [h, Request.tolerate?, Request.onStatus, hr, eq_comm]
  by_cases hcode : status = code <;> simp [hcode]

/-- Settling turns exactly the expected errors into documents. -/
theorem Matches.settle_error {r : Request} (h : Matches E n r) (e : TrackerError) :
    (e.IsStatus (E n r) ∧ ∃ document, r.settle (.error e) = .ok document) ∨
      (¬ e.IsStatus (E n r) ∧ r.settle (.error e) = .error e) := by
  cases e with
  | status code body =>
    cases htolerated : r.tolerate? code with
    | some document =>
      refine .inl ⟨⟨code, body, rfl, (h code).2 (by simp [htolerated])⟩, document, ?_⟩
      simp [Request.settle, htolerated]
    | none =>
      refine .inr ⟨?_, by simp [Request.settle, htolerated]⟩
      rintro ⟨_, _, ⟨⟩, hexpected⟩
      simpa [htolerated] using (h code).1 hexpected
  | _ => exact .inr ⟨by rintro ⟨_, _, ⟨⟩, -⟩, rfl⟩

theorem failsFast_execute {r : Request} (h : Matches E n r) (hP : P (n + 1)) :
    (execute r).FailsFast E P n := by
  refine ⟨fun document => hP, fun e => ?_⟩
  rcases h.settle_error e with ⟨hexpected, document, hsettle⟩ | ⟨hunexpected, hsettle⟩
  · refine .inl ⟨hexpected, ?_⟩
    dsimp only
    rw [hsettle]
    exact hP
  · exact .inr ⟨hunexpected, congrArg Program.done hsettle⟩

/-- A request, and what follows on its document. -/
theorem failsFast_execute_bind {r : Request} {f : Json → Program α} (h : Matches E n r)
    (hf : ∀ document, (f document).FailsFast E P (n + 1)) : (execute r >>= f).FailsFast E P n := by
  refine (failsFast_execute (P := (· = n + 1)) h rfl).bind ?_
  rintro document _ rfl
  exact hf document

theorem perform_eq (r : Request) : perform r = execute r >>= fun _ => pure () := by
  refine congrArg (Program.call r) (funext fun answer => ?_)
  dsimp only
  cases r.settle answer <;> rfl

theorem failsFast_perform {r : Request} (h : Matches E n r) (hP : P (n + 1)) :
    (perform r).FailsFast E P n := by
  rw [perform_eq]
  exact (failsFast_execute h hP).bind fun _ _ hm => hm

/-! ## What was answered -/

/-- The requests of a program with their answers. -/
def exchanges (respond : Responder σ) : Program α → σ → Option (List LinkType) → List (Request × Answer)
  | .done _, _, _ => []
  | .warn _ rest, st, memory => exchanges respond rest st memory
  | .call r next, st, memory =>
    let (st, answer) := respond st r
    (r, answer) :: exchanges respond (next answer) st memory
  | .consult next, st, memory => exchanges respond (next memory) st memory
  | .remember types rest, st, _ => exchanges respond rest st (some types)

theorem map_fst_exchanges (respond : Responder σ) (p : Program α) (st : σ) (memory : Option (List LinkType)) :
    (p.exchanges respond st memory).map Prod.fst = (p.run respond st memory).calls := by
  induction p generalizing st memory with
  | done r => rfl
  | warn w rest ih => exact ih st memory
  | call r next ih => exact congrArg (r :: ·) (ih _ (respond st r).1 memory)
  | consult next ih => exact ih memory st memory
  | remember types rest ih => exact ih st (some types)

theorem exchanges_bind (respond : Responder σ) (p : Program α) (f : α → Program β) (st : σ)
    (memory : Option (List LinkType)) :
    (p >>= f).exchanges respond st memory =
      p.exchanges respond st memory ++
        match (p.run respond st memory).result with
        | .ok a => (f a).exchanges respond (p.run respond st memory).state (p.run respond st memory).memory
        | .error _ => [] := by
  induction p generalizing st memory with
  | done r => cases r <;> rfl
  | warn w rest ih => exact ih st memory
  | call r next ih => exact congrArg ((r, (respond st r).2) :: ·) (ih _ (respond st r).1 memory)
  | consult next ih => exact ih memory st memory
  | remember types rest ih => exact ih st (some types)

/-- An unexpected error is the last answer, and the result. -/
theorem FailsFast.unexpected {respond : Responder σ} {p : Program α} (hp : p.FailsFast E P n) {st : σ}
    {memory : Option (List LinkType)} {k : Nat} {r : Request} {e : TrackerError}
    (hk : (p.exchanges respond st memory)[k]? = some (r, .error e)) (he : ¬ e.IsStatus (E (n + k) r)) :
    (p.exchanges respond st memory).length = k + 1 ∧ (p.run respond st memory).result = .error e := by
  induction p generalizing n st memory k with
  | done result => cases hk
  | warn w rest ih => exact ih hp hk he
  | consult next ih => exact ih memory (hp memory) hk he
  | remember types rest ih => exact ih hp hk he
  | call r₀ next ih =>
    -- Behind the first request the positions are one less.
    have hrest : ∀ {answer}, (respond st r₀).2 = answer → (next answer).FailsFast E P (n + 1) → ∀ {j}, k = j + 1 →
        (exchanges respond (.call r₀ next) st memory).length = k + 1 ∧
          (run respond (.call r₀ next) st memory).result = .error e := by
      rintro _ rfl hnext j rfl
      obtain ⟨hlength, hresult⟩ := ih _ hnext hk (by rwa [Nat.add_assoc, Nat.add_comm 1 j])
      exact ⟨congrArg (· + 1) hlength, hresult⟩
    cases hanswer : (respond st r₀).2 with
    | ok document =>
      cases k with
      | zero => simp [exchanges, hanswer] at hk
      | succ j => exact hrest hanswer (hp.1 document) rfl
    | error e₀ =>
      rcases hp.2 e₀ with ⟨hexpected, hnext⟩ | ⟨-, hnext⟩
      · cases k with
        | zero =>
          simp only [exchanges, hanswer, List.getElem?_cons_zero, Option.some.injEq, Prod.mk.injEq,
            Except.error.injEq] at hk
          obtain ⟨rfl, rfl⟩ := hk
          exact absurd hexpected he
        | succ j => exact hrest hanswer hnext rfl
      · have hexchanges : exchanges respond (.call r₀ next) st memory = [(r₀, .error e₀)] := by
          simp [exchanges, hanswer, hnext]
        rw [hexchanges] at hk ⊢
        cases k with
        | zero =>
          cases hk
          exact ⟨rfl, by simp [run, hanswer, hnext, Outcome.afterCall]⟩
        | succ j => simp at hk

/-- A status that comes out was answered to a request, and not expected there. -/
theorem FailsFast.answered {respond : Responder σ} {p : Program α} (hp : p.FailsFast E P n) {st : σ}
    {memory : Option (List LinkType)} {e : TrackerError} (hresult : (p.run respond st memory).result = .error e)
    (hstatus : e.status? ≠ none) :
    ∃ k r, (p.exchanges respond st memory)[k]? = some (r, .error e) ∧ ¬ e.IsStatus (E (n + k) r) := by
  induction p generalizing n st memory with
  | done result =>
    obtain rfl : result = .error e := hresult
    exact absurd hp hstatus
  | warn w rest ih => exact ih hp hresult
  | consult next ih => exact ih memory (hp memory) hresult
  | remember types rest ih => exact ih hp hresult
  | call r₀ next ih =>
    have hrest : ∀ {answer}, (respond st r₀).2 = answer → (next answer).FailsFast E P (n + 1) →
        ∃ k r, (exchanges respond (.call r₀ next) st memory)[k]? = some (r, .error e) ∧
          ¬ e.IsStatus (E (n + k) r) := by
      rintro _ rfl hnext
      obtain ⟨k, r, hk, he⟩ := ih _ hnext hresult
      exact ⟨k + 1, r, hk, by rwa [Nat.add_assoc, Nat.add_comm 1 k] at he⟩
    cases hanswer : (respond st r₀).2 with
    | ok document => exact hrest hanswer (hp.1 document)
    | error e₀ =>
      rcases hp.2 e₀ with ⟨-, hnext⟩ | ⟨hunexpected, hnext⟩
      · exact hrest hanswer hnext
      · have hresult' : (run respond (.call r₀ next) st memory).result = .error e₀ := by
          simp [run, hanswer, hnext, Outcome.afterCall]
        obtain rfl := Except.error.inj (hresult'.symm.trans hresult)
        exact ⟨0, r₀, by simp [exchanges, hanswer], hunexpected⟩

end Program

end IssueTracker
