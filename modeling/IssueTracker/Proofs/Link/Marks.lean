import IssueTracker.Proofs.Document
import IssueTracker.Proofs.Json.Equality
import IssueTracker.Proofs.Tracker.Effect
/-!
# Marks of remote links

A remote-link entry is known by its global id, under which clients put it, and by the number that the tracker gave
it. Whatever is put under a global id takes the mark of the entry that is there, so that putting entries never
changes a mark: it adds one at the end or none at all.
-/

namespace IssueTracker

open Tracker (globalIdOf)

/-! ## Lists of marks -/

/-- What an entry is known by: its global id, as one of all that count as equal, and its number. -/
def markOf (entry : Json) : Json × Json := ((globalIdOf entry).canonical, entry.getD "id")

/-- Marks with different global ids and with numbers that grow and stay below the next one. -/
structure Registered (marks : List (Json × Json)) (next : Nat) : Prop where
  distinct : (marks.map Prod.fst).Nodup
  numbered : ∃ ns : List Nat, marks.map Prod.snd = ns.map (fun n => .num (.int n)) ∧ ns.Pairwise (· < ·) ∧
    ∀ n ∈ ns, n < next

/-- No mark is lost or changed, and at most one with a new global id and the next number is added at the end. -/
structure Accrues (next next' : Nat) (marks marks' : List (Json × Json)) : Prop where
  next_le : next ≤ next'
  grown : marks' = marks ∨
    next < next' ∧ ∃ globalId ∉ marks.map Prod.fst, marks' = marks ++ [(globalId, .num (.int next))]

theorem Accrues.isPrefix {next next' : Nat} {marks marks' : List (Json × Json)} (h : Accrues next next' marks marks') :
    marks <+: marks' := by
  rcases h.grown with rfl | ⟨-, globalId, -, rfl⟩
  · exact List.prefix_rfl
  · exact List.prefix_append _ _

namespace Registered

variable {marks marks' : List (Json × Json)} {next next' : Nat}

theorem nil (next : Nat) : Registered [] next := ⟨List.nodup_nil, [], rfl, .nil, by simp⟩

theorem sublist (h : Registered marks next) (hsub : marks'.Sublist marks) : Registered marks' next := by
  obtain ⟨ns, hns, hgrow, hlt⟩ := h.numbered
  obtain ⟨ms, hms, heq⟩ := List.sublist_map_iff.1 (hns ▸ hsub.map Prod.snd)
  exact ⟨h.distinct.sublist (hsub.map _), ms, heq, hgrow.sublist hms, fun n hn => hlt n (hms.mem hn)⟩

theorem accrues (h : Registered marks next) (hgrown : Accrues next next' marks marks') :
    Registered marks' next' := by
  obtain ⟨ns, hns, hgrow, hlt⟩ := h.numbered
  rcases hgrown.grown with rfl | ⟨hnext, globalId, hnew, rfl⟩
  · exact ⟨h.distinct, ns, hns, hgrow, fun n hn => Nat.lt_of_lt_of_le (hlt n hn) hgrown.next_le⟩
  · refine ⟨?_, ns ++ [next], by simp [hns], ?_, fun n hn => ?_⟩
    · rw [List.map_append, List.nodup_append]
      refine ⟨h.distinct, List.nodup_singleton _, fun g hg g' hg' heq => hnew ?_⟩
      obtain rfl : g' = globalId := List.mem_singleton.1 hg'
      exact heq ▸ hg
    · rw [List.pairwise_append]
      exact ⟨hgrow, by simp, fun n hn m hm => List.mem_singleton.1 hm ▸ hlt n hn⟩
    · rcases List.mem_append.1 hn with hn | hn
      · exact Nat.lt_trans (hlt n hn) hnext
      · exact List.mem_singleton.1 hn ▸ hnext

end Registered

/-! ## Marks in a tracker -/

namespace Tracker

/-- The marks of an issue's entries. -/
def marksOf (t : Tracker) (key : String) : List (Json × Json) := (t.remoteLinksOf key).map markOf

variable {t t' : Tracker} {key : String} {r : Request} {answer : Answer}

theorem remoteLinksOf_put (t : Tracker) (key other : String) (entries : List Json) :
    (t.putRemoteLinks key entries).remoteLinksOf other = if other = key then entries else t.remoteLinksOf other := by
  rw [remoteLinksOf, putRemoteLinks, Table.get?_insert]
  split <;> rfl

theorem marksOf_put (t : Tracker) (key other : String) (entries : List Json) :
    (t.putRemoteLinks key entries).marksOf other = if other = key then entries.map markOf else t.marksOf other := by
  rw [marksOf, remoteLinksOf_put]
  split <;> rfl

theorem markOf_of_set? {entry changed number : Json} (h : entry.set? "id" number = some changed) :
    markOf changed = ((globalIdOf entry).canonical, number) := by
  rw [markOf, globalIdOf, Json.getD, Json.get?_of_set? h, if_neg (by decide), Json.getD, Json.get?_of_set? h,
    if_pos rfl]
  rfl

/-- Putting an entry leaves all marks in their places. -/
theorem accrues_upsertRemoteLink (t : Tracker) (key : String) (entry : Json) (other : String) :
    Accrues t.nextRemoteLinkId (t.upsertRemoteLink key entry).1.nextRemoteLinkId (t.marksOf other)
      ((t.upsertRemoteLink key entry).1.marksOf other) := by
  unfold upsertRemoteLink
  dsimp only
  split
  · rename_i i hi
    obtain ⟨hlt, hsame, -⟩ := List.findIdx?_eq_some_iff_getElem.1 hi
    split
    · rename_i changed hset
      have hlen : i < ((t.remoteLinksOf key).map markOf).length := by simpa using hlt
      have hmark : markOf changed = ((t.remoteLinksOf key).map markOf)[i] := by
        rw [markOf_of_set? hset, ← (Json.beq_iff_canonical _ _).1 hsame, List.getElem_map,
          List.getElem?_eq_getElem hlt]
        rfl
      refine ⟨Nat.le_refl _, .inl ?_⟩
      rw [marksOf_put, List.map_set, hmark, List.set_getElem_self]
      split
      · rename_i heq
        rw [heq]
        rfl
      · rfl
    · exact ⟨Nat.le_refl _, .inl rfl⟩
  · rename_i hnone
    have hnumber : ((t.nextRemoteLinkId + 1 : Nat) : Int) - 1 = t.nextRemoteLinkId := by omega
    rw [hnumber]
    split
    · rename_i changed hset
      have hnew : (globalIdOf entry).canonical ∉ (t.marksOf key).map Prod.fst := by
        intro hmem
        rw [marksOf, List.map_map] at hmem
        obtain ⟨old, hold, heq⟩ := List.mem_map.1 hmem
        exact Bool.false_ne_true
          ((List.findIdx?_eq_none_iff.1 hnone old hold).symm.trans ((Json.beq_iff_canonical _ _).2 heq))
      refine ⟨Nat.le_succ _, ?_⟩
      change (t.putRemoteLinks key (t.remoteLinksOf key ++ [changed])).marksOf other = _ ∨
        _ ∧ ∃ globalId ∉ _, (t.putRemoteLinks key (t.remoteLinksOf key ++ [changed])).marksOf other = _
      rw [marksOf_put]
      split
      · rename_i heq
        subst heq
        refine .inr ⟨Nat.lt_succ_self _, _, hnew, ?_⟩
        rw [List.map_append, List.map_singleton, markOf_of_set? hset]
        rfl
      · exact .inl rfl
    · exact ⟨Nat.le_succ _, .inl rfl⟩

/-- Deleting by a global id leaves the other entries as they are. -/
theorem sublist_deleteRemoteLinks (t : Tracker) (key id other : String) :
    ((t.deleteRemoteLinks key id).1.remoteLinksOf other).Sublist (t.remoteLinksOf other) ∧
      (t.deleteRemoteLinks key id).1.nextRemoteLinkId = t.nextRemoteLinkId := by
  unfold deleteRemoteLinks
  dsimp only
  split
  · exact ⟨.refl _, rfl⟩
  · refine ⟨?_, rfl⟩
    rw [remoteLinksOf_put]
    split
    · rename_i heq
      rw [heq]
      exact List.filter_sublist
    · exact .refl _

/-- What a tracker knows of remote links. -/
def shelves (t : Tracker) : Table (List Json) × Nat := (t.remoteLinks, t.nextRemoteLinkId)

/-- Only putting and deleting concern remote links. -/
theorem Effect.remoteLinks (h : Effect t r t' answer) : t'.shelves = t.shelves ∨
    (r.method = .post ∧ ∃ key, t' = (t.upsertRemoteLink key (bodyOf r)).1) ∨
      (r.method = .delete ∧ ∃ key id, t' = (t.deleteRemoteLinks key id).1) := by
  cases h with
  | upsert key hmethod => exact .inr (.inl ⟨hmethod, key, rfl⟩)
  | delete key id hmethod => exact .inr (.inr ⟨hmethod, key, id, rfl⟩)
  | link => exact .inl (issueLinkRoute_keeps (P := fun t' => t'.shelves = t.shelves) rfl fun _ _ _ _ _ _ _ h _ _ => h)
  | _ => exact .inl rfl

end Tracker

end IssueTracker
