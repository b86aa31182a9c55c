import Mathlib.Data.List.Forall2
import IssueTracker.Proofs.Results
/-!
# Lists with others in between

A list into which others were put anywhere. Its own elements are the same up to some relation; the others
are in it as they are, in their order. Whatever passes over the others finds no difference.
-/

namespace IssueTracker

/-- A list of own elements, others, and the list of all of them, where those that are own may differ a little. -/
inductive Interspersed {α : Type} (same : α → α → Prop) : List α → List α → List α → Prop
  | nil : Interspersed same [] [] []
  | own {a b : α} {own others all : List α} (hsame : same a b) (h : Interspersed same own others all) :
      Interspersed same (a :: own) others (b :: all)
  | other (x : α) {own others all : List α} (h : Interspersed same own others all) :
      Interspersed same own (x :: others) (x :: all)

namespace Interspersed

variable {α β γ ε : Type} {same : α → α → Prop} {own others all : List α}

theorem refl (hrefl : ∀ a, same a a) (own : List α) : Interspersed same own [] own := by
  induction own with
  | nil => exact .nil
  | cons a own ih => exact ih.own (hrefl a)

theorem mem_all (h : Interspersed same own others all) {x : α} (hx : x ∈ others) : x ∈ all := by
  induction h with
  | nil => exact hx
  | own _ _ ih => exact List.mem_cons_of_mem _ (ih hx)
  | other y _ ih =>
    rcases List.mem_cons.1 hx with rfl | hx
    · exact List.mem_cons_self
    · exact List.mem_cons_of_mem _ (ih hx)

/-- One more of the own elements goes to the end. -/
theorem append (h : Interspersed same own others all) {a b : α} (hab : same a b) :
    Interspersed same (own ++ [a]) others (all ++ [b]) := by
  induction h with
  | nil => exact .own hab .nil
  | own hsame _ ih => exact ih.own hsame
  | other x _ ih => exact ih.other x

/-- One more of the others goes to the end. -/
theorem append_other (h : Interspersed same own others all) (x : α) :
    Interspersed same own (others ++ [x]) (all ++ [x]) := by
  induction h with
  | nil => exact .other x .nil
  | own hsame _ ih => exact ih.own hsame
  | other y _ ih => exact ih.other y

section Filter

variable {p : α → Bool} (hp : ∀ a b, same a b → p a = p b)
include hp

/-- Where none of the others is dropped, all of them stay in their places. -/
theorem filter (h : Interspersed same own others all) (hothers : ∀ x ∈ others, p x = true) :
    Interspersed same (own.filter p) others (all.filter p) := by
  induction h with
  | nil => exact .nil
  | @own a b _ _ _ hsame _ ih =>
    rw [List.filter_cons, List.filter_cons, ← hp a b hsame]
    split
    · exact (ih hothers).own hsame
    · exact ih hothers
  | other x _ ih =>
    rw [List.filter_cons_of_pos (hothers x List.mem_cons_self)]
    exact (ih fun y hy => hothers y (List.mem_cons_of_mem _ hy)).other x

/-- Where all of the others are dropped, the own elements are left. -/
theorem forall₂_filter (h : Interspersed same own others all) (hothers : ∀ x ∈ others, p x = false) :
    List.Forall₂ same (own.filter p) (all.filter p) := by
  induction h with
  | nil => exact .nil
  | @own a b _ _ _ hsame _ ih =>
    rw [List.filter_cons, List.filter_cons, ← hp a b hsame]
    split
    · exact .cons hsame (ih hothers)
    · exact ih hothers
  | other x _ ih =>
    rw [List.filter_cons_of_neg (by simp [hothers x List.mem_cons_self])]
    exact ih fun y hy => hothers y (List.mem_cons_of_mem _ hy)

end Filter

theorem map_filterMap_mapM_cons (f : α → Except ε β) (g : β → Option γ) (x : α) (xs : List α) :
    ((x :: xs).mapM f).map (List.filterMap g) =
      ((f x).map g).bind fun found => ((xs.mapM f).map (List.filterMap g)).map (found.toList ++ ·) := by
  rw [List.mapM_cons]
  cases f x with
  | error e => rfl
  | ok y =>
    cases xs.mapM f with
    | error e => rfl
    | ok ys =>
      show Except.ok (List.filterMap g (y :: ys)) = .ok ((g y).toList ++ List.filterMap g ys)
      rw [List.filterMap_cons]
      cases g y <;> rfl

/-- Of the results those of the others count for nothing, so that what is made of them is the same. -/
theorem map_filterMap_mapM {f : α → Except ε β} {g : β → Option γ} (h : Interspersed same own others all)
    (hsame : ∀ a ∈ own, ∀ b ∈ all, same a b → (f a).map g = (f b).map g)
    (hothers : ∀ x ∈ others, (f x).map g = .ok none) :
    (own.mapM f).map (List.filterMap g) = (all.mapM f).map (List.filterMap g) := by
  induction h with
  | nil => rfl
  | @own a b _ _ _ hab _ ih =>
    rw [map_filterMap_mapM_cons, map_filterMap_mapM_cons, hsame a List.mem_cons_self b List.mem_cons_self hab,
      ih (fun a' ha b' hb => hsame a' (List.mem_cons_of_mem _ ha) b' (List.mem_cons_of_mem _ hb)) hothers]
  | other x _ ih =>
    have hrest := ih (fun a ha b hb => hsame a ha b (List.mem_cons_of_mem _ hb))
      fun y hy => hothers y (List.mem_cons_of_mem _ hy)
    rw [map_filterMap_mapM_cons, hothers x List.mem_cons_self, hrest]
    generalize Except.map _ _ = links
    cases links <;> rfl

end Interspersed

end IssueTracker
