import IssueTracker.Snapshot.Operations
/-!
# Errors without a status

A status only ever comes from an answer. What a document is read as, and what is read into it, may
fail for many reasons, but none of them is a status.
-/

namespace IssueTracker

variable {α β : Type}

/-- A result whose error, if it is one, is no status. -/
def Statusless (x : Except TrackerError α) : Prop := ∀ e, x = .error e → e.status? = none

namespace Statusless

theorem ok (a : α) : Statusless (.ok a) := by rintro e ⟨⟩

theorem error {e : TrackerError} (h : e.status? = none) : Statusless (.error e : Except TrackerError α) := by
  rintro _ ⟨⟩
  exact h

theorem bind {x : Except TrackerError α} {f : α → Except TrackerError β} (hx : Statusless x)
    (hf : ∀ a, Statusless (f a)) : Statusless (x >>= f) := by
  cases x with
  | ok a => exact hf a
  | error e => exact error (hx e rfl)

theorem mapM {f : α → Except TrackerError β} (hf : ∀ a, Statusless (f a)) (xs : List α) :
    Statusless (xs.mapM f) := by
  induction xs with
  | nil => exact ok _
  | cons x xs ih =>
    rw [List.mapM_cons]
    exact (hf x).bind fun _ => ih.bind fun _ => ok _

end Statusless

/-! ## Documents -/

namespace Json

variable (doc : Json) (p : Pointer)

theorem statusless_valueAt : Statusless (doc.valueAt p) := by
  unfold valueAt
  split
  · exact .ok _
  · exact .error rfl

theorem statusless_stringAt : Statusless (doc.stringAt p) := by
  refine (statusless_valueAt doc p).bind fun value => ?_
  split
  · exact .ok _
  · exact .error rfl

theorem statusless_idAt : Statusless (doc.idAt p) := by
  refine (statusless_valueAt doc p).bind fun value => ?_
  split
  · exact .ok _
  · exact .ok _
  · exact .error rfl

theorem statusless_timestampAt : Statusless (doc.timestampAt p) := by
  refine (statusless_stringAt doc p).bind fun text => ?_
  split
  · exact .ok _
  · exact .error rfl

theorem statusless_text (value : Option Json) : Statusless (text value) := by
  unfold text
  split
  · exact .ok _
  · exact .error rfl

theorem statusless_fields (names : List String) : Statusless (doc.fields names) := by
  unfold fields
  split
  · exact .ok _
  · split
    · exact .ok _
    · exact .error rfl
  · exact .error rfl

end Json

theorem Comment.statusless_ofJson (doc : Json) : Statusless (ofJson doc) :=
  (Json.statusless_stringAt _ _).bind fun _ => (Json.statusless_idAt _ _).bind fun _ =>
    (Json.statusless_stringAt _ _).bind fun _ => (Json.statusless_timestampAt _ _).bind fun _ =>
      (Json.statusless_timestampAt _ _).bind fun _ => .ok _

theorem Snapshot.statusless_ofJson (doc : Json) : Statusless (ofJson doc) :=
  (Json.statusless_stringAt _ _).bind fun _ => (Json.statusless_stringAt _ _).bind fun _ =>
    (Json.statusless_stringAt _ _).bind fun _ => .ok _

theorem LinkType.statusless_ofJson (doc : Json) : Statusless (ofJson doc) := by
  refine (Json.statusless_fields _ _).bind fun values => ?_
  split
  · exact (Json.statusless_text _).bind fun _ => (Json.statusless_text _).bind fun _ =>
      (Json.statusless_text _).bind fun _ => .ok _
  · exact .error rfl

theorem Workflow.Drive.statusless_readTransitions (doc : Json) : Statusless (readTransitions doc) :=
  .mapM (fun _ => (Json.statusless_stringAt _ _).bind fun _ => (Json.statusless_idAt _ _).bind fun _ => .ok _) _

theorem Snapshot.statusless_readIssueLink (entry : Json) : Statusless (readIssueLink entry) := by
  unfold readIssueLink
  split <;> exact (Json.statusless_stringAt _ _).bind fun _ => (Json.statusless_stringAt _ _).bind fun _ => .ok _

theorem WebLink.EntryForm.statusless_read (entry : Json) : Statusless (read entry) := by
  refine (Json.statusless_stringAt _ _).bind fun raw => ?_
  dsimp only
  split
  · exact (Json.statusless_stringAt _ _).bind fun _ => .ok _
  · exact .error rfl

end IssueTracker
