import IssueTracker.Proofs.Json.Places
import IssueTracker.Proofs.Tracker.Fetch
/-!
# Identity of snapshots

Two snapshots are equal exactly when one document becomes the other, however it is written, by touching
nothing but the volatile field. Equality is an equivalence, and equal snapshots feed a hasher alike.
-/

namespace IssueTracker.Snapshot

/-- The field that changes without meaning. -/
def volatileKeys : List String := ["fields", "customfield_11700"]

/-- The document with another value in the volatile field, or without that field. -/
def retouched (value : Option Json) (document : Json) : Json := document.assignPath value volatileKeys

theorem core_eq (s : Snapshot) : s.core = retouched none s.document := by
  have hkeys : Json.keysOfPath "fields.customfield_11700" = volatileKeys := by decide +kernel
  rw [core, Json.withoutPaths, volatilePaths, List.foldl_cons, List.foldl_nil, hkeys, retouched,
    Json.erasePath_eq_assignPath]

variable {a b : Json} {s t : Snapshot}

theorem ordered_retouched {value : Option Json} (ha : a.Ordered) (hvalue : ∀ v ∈ value, v.Ordered) :
    (retouched value a).Ordered := ha.assignPath hvalue volatileKeys

/-- Documents are the same but for the volatile field exactly when one becomes the other by touching it. -/
theorem retouched_same_iff (ha : a.Ordered) (hb : b.Ordered) : (retouched none a).Same (retouched none b) ↔
    ∃ value, (∀ v ∈ value, v.Ordered) ∧ (retouched value a).Same b := by
  constructor
  · intro h
    have hvalue : ∀ v ∈ b.getPath? volatileKeys, v.Ordered := fun v hv => hb.getPath? hv
    refine ⟨b.getPath? volatileKeys, hvalue, ?_⟩
    have hback := h.assignPath hvalue volatileKeys
    unfold retouched at hback ⊢
    rwa [ha.assignPath_assignPath, hb.assignPath_assignPath, hb.assignPath_getPath?] at hback
  · rintro ⟨value, -, h⟩
    have hnothing : ∀ v ∈ (none : Option Json), v.Ordered := by simp
    have hdropped := h.assignPath hnothing volatileKeys
    unfold retouched at hdropped ⊢
    rwa [ha.assignPath_assignPath] at hdropped

/-- Snapshots are equal exactly when the document of one becomes that of the other, in whatever order the
members are listed and with either zero for zero, by touching the volatile field alone. -/
theorem identity : (Equivalence fun s t : Snapshot => (s == t) = true) ∧
    (∀ s t : Snapshot, (s == t) = true → s.feed = t.feed) ∧
      ∀ {a b : Json} {s t : Snapshot}, a.Ordered → b.Ordered → ofJson a = .ok s → ofJson b = .ok t →
        ((s == t) = true ↔ ∃ value, (∀ v ∈ value, v.Ordered) ∧ (retouched value a).Same b) := by
  refine ⟨⟨fun s => ?_, fun {s t} h => ?_, fun {s t u} hst htu => ?_⟩, fun s t h => Json.feed_of_beq h,
    fun {a b s t} ha hb hs ht => ?_⟩
  · exact BEq.refl s.core
  · exact BEq.symm (α := Json) h
  · exact BEq.trans (α := Json) hst htu
  · have hbeq : (s == t) = (s.core == t.core) := rfl
    rw [hbeq, core_eq, core_eq, document_of_ofJson hs, document_of_ofJson ht,
      Json.beq_iff_same (ordered_retouched ha (by simp)) (ordered_retouched hb (by simp))]
    exact retouched_same_iff ha hb

/-- The document of an issue with some other fields. -/
def measured (others : List (String × Json)) : Json :=
  .ofMembers [("key", .str "X-1"), ("fields", .ofMembers (others ++
    [("summary", .str "Crash"), ("status", .ofMembers [("name", .str "Open")])]))]

theorem ordered_measured {others : List (String × Json)} (h : ∀ member ∈ others, member.2.Ordered) :
    (measured others).Ordered := by
  have hstatus : (Json.ofMembers [("name", .str "Open")]).Ordered := Json.ordered_ofMembers (by simp [Json.Ordered.str])
  have hfields : (Json.ofMembers (others ++
      [("summary", .str "Crash"), ("status", .ofMembers [("name", .str "Open")])])).Ordered := by
    refine Json.ordered_ofMembers fun member hmember => ?_
    rcases List.mem_append.1 hmember with hmember | hmember
    · exact h member hmember
    · rcases List.mem_pair.1 hmember with rfl | rfl
      · exact .str "Crash"
      · exact hstatus
  exact Json.ordered_ofMembers (by simp [Json.Ordered.str, hfields])

/-- A volatile field on one side and a negative zero on the other leave snapshots equal. -/
theorem identity_of_zeros :
    let a := measured [("customfield_11700", .num 3), ("ratio", .num (.float ⟨0⟩))]
    let b := measured [("ratio", .num (.float (Binary64.neg ⟨0⟩)))]
    a.Ordered ∧ b.Ordered ∧ ∃ s t, ofJson a = .ok s ∧ ofJson b = .ok t ∧ (s == t) = true ∧ s.feed = t.feed := by
  intro a b
  have ha : a.Ordered := ordered_measured (by simp [Json.Ordered.num])
  have hb : b.Ordered := ordered_measured (by simp [Json.Ordered.num])
  obtain ⟨s, hs⟩ : ∃ s, ofJson a = .ok s := ⟨_, rfl⟩
  obtain ⟨t, ht⟩ : ∃ t, ofJson b = .ok t := ⟨_, rfl⟩
  have hretouched : (retouched none a).Same b :=
    (Json.beq_iff_same (ordered_retouched ha (by simp)) hb).1 (by decide +kernel)
  have heq : (s == t) = true := (identity.2.2 ha hb hs ht).2 ⟨none, by simp, hretouched⟩
  exact ⟨ha, hb, s, t, hs, ht, heq, identity.2.1 s t heq⟩

end IssueTracker.Snapshot
