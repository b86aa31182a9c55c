/-!
# Lists of results

Where every element of a list gives a result, the results are a list too.
-/

namespace IssueTracker

variable {α β ε : Type} {f : α → Except ε β} {xs : List α} {ys : List β}

theorem exists_map_ok (h : ∀ x ∈ xs, ∃ y, f x = .ok y) : ∃ ys : List β, xs.map f = ys.map .ok := by
  induction xs with
  | nil => exact ⟨[], rfl⟩
  | cons x xs ih =>
    obtain ⟨y, hy⟩ := h x List.mem_cons_self
    obtain ⟨ys, hys⟩ := ih fun x' hx' => h x' (List.mem_cons_of_mem _ hx')
    exact ⟨y :: ys, by rw [List.map_cons, List.map_cons, hy, hys]⟩

/-- The results are a list exactly when every element gives one of them. -/
theorem mapM_eq_ok : xs.mapM f = .ok ys ↔ xs.map f = ys.map .ok := by
  induction xs generalizing ys with
  | nil => cases ys <;> simp [pure, Except.pure]
  | cons x xs ih =>
    constructor
    · intro h
      rw [List.mapM_cons] at h
      cases hx : f x with
      | error e =>
        rw [hx] at h
        cases h
      | ok y =>
        cases hxs : xs.mapM f with
        | error e =>
          rw [hx, hxs] at h
          cases h
        | ok ys' =>
          rw [hx, hxs] at h
          cases h
          rw [List.map_cons, List.map_cons, hx, ih.1 hxs]
    · intro h
      cases ys with
      | nil => cases h
      | cons y ys =>
        rw [List.map_cons, List.map_cons, List.cons.injEq] at h
        rw [List.mapM_cons, h.1, ih.2 h.2]
        rfl

/-- The results are the same where they are one by one. -/
theorem mapM_congr_of_map {g : α → Except ε β} {xs' : List α} (h : xs.map f = xs'.map g) : xs.mapM f = xs'.mapM g := by
  induction xs generalizing xs' with
  | nil =>
    obtain rfl := List.map_eq_nil_iff.1 h.symm
    rfl
  | cons x xs ih =>
    cases xs' with
    | nil => cases h
    | cons x' xs' =>
      rw [List.map_cons, List.map_cons, List.cons.injEq] at h
      rw [List.mapM_cons, List.mapM_cons, h.1, ih h.2]

/-- A sequence fails where one of its parts does. -/
theorem bind_eq_error {x : Except ε α} {f : α → Except ε β} {e : ε} (h : (x >>= f) = .error e) :
    x = .error e ∨ ∃ a, x = .ok a ∧ f a = .error e := by
  cases x with
  | error e' =>
    cases h
    exact .inl rfl
  | ok a => exact .inr ⟨a, rfl, h⟩

/-- Results that are told apart by nothing that is read off them fail alike, or none fails. -/
theorem errors_or_values {γ : Type} {x y : Except ε α} {g : α → γ} (h : x.map g = y.map g) :
    (∃ e, x = .error e ∧ y = .error e) ∨ ∃ a b, x = .ok a ∧ y = .ok b ∧ g a = g b := by
  cases x with
  | error e =>
    cases y with
    | error e' =>
      cases h
      exact .inl ⟨e, rfl, rfl⟩
    | ok b => cases h
  | ok a =>
    cases y with
    | error e' => cases h
    | ok b => exact .inr ⟨a, b, rfl, rfl, Except.ok.inj h⟩

/-- Where the results are no list, some element gave the error. -/
theorem mapM_eq_error {e : ε} (h : xs.mapM f = .error e) : ∃ x ∈ xs, f x = .error e := by
  induction xs with
  | nil => cases h
  | cons x xs ih =>
    rw [List.mapM_cons] at h
    rcases bind_eq_error h with hx | ⟨y, -, hrest⟩
    · exact ⟨x, List.mem_cons_self, hx⟩
    · rcases bind_eq_error hrest with hxs | ⟨ys, -, hpure⟩
      · obtain ⟨x', hx', hf⟩ := ih hxs
        exact ⟨x', List.mem_cons_of_mem x hx', hf⟩
      · cases hpure

theorem result_of_mem (h : xs.map f = ys.map .ok) {x : α} (hx : x ∈ xs) : ∃ y ∈ ys, f x = .ok y := by
  have hmem : f x ∈ ys.map .ok := h ▸ List.mem_map_of_mem hx
  obtain ⟨y, hy, heq⟩ := List.mem_map.1 hmem
  exact ⟨y, hy, heq.symm⟩

theorem source_of_mem (h : xs.map f = ys.map .ok) {y : β} (hy : y ∈ ys) : ∃ x ∈ xs, f x = .ok y := by
  have hmem : (.ok y : Except ε β) ∈ xs.map f := h ▸ List.mem_map_of_mem hy
  exact List.mem_map.1 hmem

/-- What is read off the elements is read off their results. -/
theorem map_of_results {γ : Type} (h : xs.map f = ys.map .ok) {g : α → γ} {k : β → γ}
    (hg : ∀ x ∈ xs, ∀ y, f x = .ok y → g x = k y) : xs.map g = ys.map k := by
  induction xs generalizing ys with
  | nil =>
    obtain rfl := List.map_eq_nil_iff.1 h.symm
    rfl
  | cons x xs ih =>
    cases ys with
    | nil => cases h
    | cons y ys =>
      rw [List.map_cons, List.map_cons, List.cons.injEq] at h
      rw [List.map_cons, List.map_cons, hg x List.mem_cons_self y h.1,
        ih h.2 fun x' hx' => hg x' (List.mem_cons_of_mem _ hx')]

/-- Where elements are left out, so are their results. -/
theorem filter_of_results (h : xs.map f = ys.map .ok) {p : α → Bool} {q : β → Bool}
    (hpq : ∀ x ∈ xs, ∀ y, f x = .ok y → p x = q y) : (xs.filter p).map f = (ys.filter q).map .ok := by
  induction xs generalizing ys with
  | nil =>
    obtain rfl := List.map_eq_nil_iff.1 h.symm
    rfl
  | cons x xs ih =>
    cases ys with
    | nil => cases h
    | cons y ys =>
      rw [List.map_cons, List.map_cons, List.cons.injEq] at h
      have hrest := ih h.2 fun x' hx' => hpq x' (List.mem_cons_of_mem _ hx')
      rw [List.filter_cons, List.filter_cons, hpq x List.mem_cons_self y h.1]
      split
      · rw [List.map_cons, List.map_cons, h.1, hrest]
      · exact hrest

end IssueTracker
