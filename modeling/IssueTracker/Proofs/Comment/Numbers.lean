import IssueTracker.Proofs.Comment.Documents
/-!
# Numbers of comments

A tracker gives every new comment the next number as its id, so that no number is given twice.
What is done to a comment later leaves its id alone.
-/

namespace IssueTracker

open Tracker (restricted)

/-- The ids of comments, as they stand in their documents. -/
def idsOf (docs : List Json) : List (Option Json) := docs.map (Json.get? "id")

/-- The ids stay when a comment becomes another with its id. -/
theorem idsOf_set {docs : List Json} {i : Nat} {old new : Json} (hold : docs[i]? = some old)
    (hid : new.get? "id" = old.get? "id") : idsOf (docs.set i new) = idsOf docs := by
  obtain ⟨hi, rfl⟩ := List.getElem?_eq_some_iff.1 hold
  have hi' : i < (idsOf docs).length := by simpa [idsOf] using hi
  have hget : (idsOf docs)[i] = docs[i].get? "id" := List.getElem_map _
  rw [idsOf, List.map_set, hid, ← hget]
  exact List.set_getElem_self _

/-- Comments with different numbers below the next one as their ids. -/
structure Numbered (docs : List Json) (next : Nat) : Prop where
  numbered : ∀ id ∈ idsOf docs, ∃ n < next, id = some (.str (toString n))
  distinct : (idsOf docs).Nodup

namespace Numbered

variable {docs : List Json} {next : Nat}

theorem nil (next : Nat) : Numbered [] next := ⟨by simp [idsOf], List.nodup_nil⟩

theorem sublist (h : Numbered docs next) {rest : List Json} (hrest : rest.Sublist docs) : Numbered rest next :=
  ⟨fun id hid => h.numbered id ((hrest.map _).mem hid), h.distinct.sublist (hrest.map _)⟩

/-- No comment has the next number yet. -/
theorem next_notMem (h : Numbered docs next) : some (.str (toString next)) ∉ idsOf docs := by
  intro hmem
  obtain ⟨n, hn, heq⟩ := h.numbered _ hmem
  have hsame := toString_nat_injective (Json.str.inj (Option.some.inj heq))
  omega

/-- A comment under the next number is a new one. -/
theorem append (h : Numbered docs next) {doc : Json} (hid : doc.get? "id" = some (.str (toString next))) :
    Numbered (docs ++ [doc]) (next + 1) := by
  have hids : idsOf (docs ++ [doc]) = idsOf docs ++ [some (.str (toString next))] := by
    rw [idsOf, List.map_append, List.map_singleton, hid, idsOf]
  refine ⟨?_, hids ▸ List.nodup_append.2 ⟨h.distinct, by simp, ?_⟩⟩
  · intro id hmem
    rw [hids] at hmem
    rcases List.mem_append.1 hmem with hmem | hmem
    · obtain ⟨n, hn, heq⟩ := h.numbered id hmem
      exact ⟨n, by omega, heq⟩
    · exact ⟨next, by omega, List.mem_singleton.1 hmem⟩
  · rintro old hold new hnew rfl
    exact h.next_notMem (List.mem_singleton.1 hnew ▸ hold)

/-- A comment may become another with its id. -/
theorem set (h : Numbered docs next) {i : Nat} {old new : Json} (hold : docs[i]? = some old)
    (hid : new.get? "id" = old.get? "id") : Numbered (docs.set i new) next := by
  have hids := idsOf_set hold hid
  exact ⟨hids ▸ h.numbered, hids ▸ h.distinct⟩

end Numbered

/-! ## Comments that are written and changed -/

namespace Tracker

variable (t : Tracker)

theorem get?_id_newComment (author body : String) (request : Json) :
    (restricted request (t.newComment author body)).get? "id" = some (.str (toString t.nextCommentId)) := by
  rw [get?_restricted (by decide), get?_newComment]
  simp

theorem get?_id_changeComment (request comment : Json) :
    (changeComment request comment).get? "id" = comment.get? "id" := by
  rw [changeComment, get?_restricted (by decide), Json.get?_set_of_ne (by decide), Json.get?_set_of_ne (by decide)]

end Tracker

end IssueTracker
