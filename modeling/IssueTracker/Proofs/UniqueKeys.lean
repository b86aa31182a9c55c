/-!
# Lists with unique keys

Finding, replacing and removing the one element with a key, where no two elements share a key.
-/

namespace IssueTracker.UniqueKeys

variable {α κ : Type} [DecidableEq κ] (key : α → κ)

/-- The element with a key is found by it. -/
theorem find?_key {l : List α} (hn : (l.map key).Nodup) {x : α} (hx : x ∈ l) :
    l.find? (fun y => key y = key x) = some x := by
  induction l with
  | nil => cases hx
  | cons y l ih =>
    obtain ⟨hy, hl⟩ := List.nodup_cons.1 hn
    rcases List.mem_cons.1 hx with rfl | hx
    · simp
    · have hne : key y ≠ key x := fun e => hy (e ▸ List.mem_map_of_mem hx)
      rw [List.find?_cons_of_neg (by simpa using hne), ih hl hx]

/-- What is found is the element with the key. -/
theorem find?_eq_some_iff {l : List α} (hn : (l.map key).Nodup) {k : κ} {x : α} :
    l.find? (fun y => key y = k) = some x ↔ x ∈ l ∧ key x = k := by
  constructor
  · intro h
    exact ⟨List.mem_of_find?_eq_some h, by simpa using List.find?_some h⟩
  · rintro ⟨hx, rfl⟩
    exact find?_key key hn hx

/-- No other element has the key of an element. -/
theorem filter_key {l : List α} (hn : (l.map key).Nodup) {x : α} (hx : x ∈ l) :
    l.filter (fun y => key y = key x) = [x] := by
  induction l with
  | nil => cases hx
  | cons y l ih =>
    obtain ⟨hy, hl⟩ := List.nodup_cons.1 hn
    rcases List.mem_cons.1 hx with rfl | hx
    · have hrest : ∀ z ∈ l, ¬ key z = key x := fun z hz heq => hy (heq ▸ List.mem_map_of_mem hz)
      rw [List.filter_cons_of_pos (by simp), List.filter_eq_nil_iff.2 (by simpa using hrest)]
    · have hne : key y ≠ key x := fun e => hy (e ▸ List.mem_map_of_mem hx)
      rw [List.filter_cons_of_neg (by simpa using hne), ih hl hx]

/-- Erasing the only element of a kind is keeping the others. -/
theorem eraseIdx_eq_filter {p : α → Bool} {l : List α} (h : l.Pairwise fun a b => ¬ (p a = true ∧ p b = true))
    {i : Nat} (hi : l.findIdx? p = some i) : l.eraseIdx i = l.filter (!p ·) := by
  induction l generalizing i with
  | nil => cases hi
  | cons a l ih =>
    obtain ⟨ha, hl⟩ := List.pairwise_cons.1 h
    rw [List.findIdx?_cons] at hi
    by_cases hp : p a = true
    · rw [if_pos hp] at hi
      obtain rfl := Option.some.inj hi
      have hrest : ∀ b ∈ l, (!p b) = true := fun b hb => by simpa [hp] using ha b hb
      rw [List.filter_cons_of_neg (by simp [hp]), List.filter_eq_self.2 hrest]
      rfl
    · rw [if_neg hp] at hi
      obtain ⟨j, hj, rfl⟩ := Option.map_eq_some_iff.1 hi
      rw [List.eraseIdx_cons_succ, ih hl hj, List.filter_cons_of_pos (by simpa using hp)]

/-- Replacing the only element of a kind is changing all of the kind. -/
theorem set_eq_map {p : α → Bool} {l : List α} (h : l.Pairwise fun a b => ¬ (p a = true ∧ p b = true)) {i : Nat} {a : α}
    (hi : l.findIdx? p = some i) (ha : l[i]? = some a) (f : α → α) :
    l.set i (f a) = l.map fun x => if p x then f x else x := by
  induction l generalizing i with
  | nil => cases hi
  | cons b l ih =>
    obtain ⟨hb, hl⟩ := List.pairwise_cons.1 h
    rw [List.findIdx?_cons] at hi
    by_cases hp : p b = true
    · rw [if_pos hp] at hi
      obtain rfl := Option.some.inj hi
      obtain rfl : b = a := Option.some.inj ha
      have hrest : l.map (fun x => if p x then f x else x) = l :=
        (List.map_congr_left fun x hx => if_neg fun hpx => hb x hx ⟨hp, hpx⟩).trans (List.map_id' l)
      rw [List.set_cons_zero, List.map_cons, if_pos hp, hrest]
    · rw [if_neg hp] at hi
      obtain ⟨j, hj, rfl⟩ := Option.map_eq_some_iff.1 hi
      rw [List.set_cons_succ, ih hl hj ha, List.map_cons, if_neg hp]

end IssueTracker.UniqueKeys
