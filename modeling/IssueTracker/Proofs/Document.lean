import IssueTracker.Document
/-!
# Reading documents

What is found at a place of a document, where the document is an object and where it is one
that was put together from members.
-/

namespace IssueTracker.Json

/-! ## Equality with a text -/

@[simp] theorem beq_str (doc : Json) (s : String) : (doc == .str s) = true ↔ doc = .str s := by
  cases doc with
  | str a =>
    have h : (Json.str a == .str s) = (a == s) := rfl
    simp [h]
  | _ => exact ⟨fun h => by simp [BEq.beq, beq] at h, fun h => by cases h⟩

/-! ## Members -/

theorem get?_ofMembers (key : String) (members : List (String × Json)) :
    (ofMembers members).get? key = Table.get? key (Table.ofEntries members) := rfl

theorem getD_ofMembers (key : String) (members : List (String × Json)) :
    (ofMembers members).getD key = (Table.get? key (Table.ofEntries members)).getD .null := rfl

/-- An object with a member set, read at any member. -/
theorem get?_of_set? {doc changed value : Json} {key : String} (h : doc.set? key value = some changed)
    (other : String) : changed.get? other = if other = key then some value else doc.get? other := by
  cases doc with
  | null =>
    simp only [set?, Option.some.injEq] at h
    subst h
    simp [get?, Table.get?]
  | obj members =>
    simp only [set?, Option.some.injEq] at h
    subst h
    exact Table.get?_insert key other value members
  | _ => simp [set?] at h

/-- What has members can be given one more. -/
theorem set?_of_get? {doc value : Json} {key : String} (h : doc.get? key = some value) (other : String)
    (v : Json) : ∃ changed, doc.set? other v = some changed := by
  cases doc with
  | obj members => exact ⟨_, rfl⟩
  | _ => simp [get?] at h

/-- Setting a member leaves the others. -/
theorem get?_set_of_ne {key other : String} (h : other ≠ key) (doc value : Json) :
    (doc.set key value).get? other = doc.get? other := by
  unfold set
  cases hset : doc.set? key value with
  | none => rfl
  | some changed => rw [Option.getD_some, get?_of_set? hset, if_neg h]

/-! ## Places -/

@[simp] theorem follow_nil : follow [] = some := by
  funext doc
  rw [follow]

theorem pointer_ofKeys (doc : Json) (keys : List String) :
    doc.pointer (.ofKeys keys) = follow keys doc := rfl

/-- A step that is no position is one to a member. -/
theorem follow_cons {step : String} (h : index? step = none) (steps : List String) (doc : Json) :
    follow (step :: steps) doc = (doc.get? step).bind (follow steps) := by
  cases doc <;> simp [follow, get?, h]

/-- What is found below a member depends on this member alone. -/
theorem pointer_congr {doc doc' : Json} {key : String} (hkey : index? key = none) (h : doc'.get? key = doc.get? key)
    (keys : List String) : doc'.pointer (.ofKeys (key :: keys)) = doc.pointer (.ofKeys (key :: keys)) := by
  rw [pointer_ofKeys, pointer_ofKeys, follow_cons hkey, follow_cons hkey, h]

theorem stringAt_congr {doc doc' : Json} {key : String} (hkey : index? key = none) (h : doc'.get? key = doc.get? key)
    (keys : List String) : doc'.stringAt (.ofKeys (key :: keys)) = doc.stringAt (.ofKeys (key :: keys)) := by
  rw [stringAt, stringAt, valueAt, valueAt, pointer_congr hkey h]

/-- A text is read from a place exactly where there is one. -/
theorem stringAt_eq_ok_iff {doc : Json} {p : Pointer} {text : String} :
    doc.stringAt p = .ok text ↔ doc.pointer p = some (.str text) := by
  rw [stringAt, valueAt]
  cases doc.pointer p with
  | none => simp [bind, Except.bind]
  | some value => cases value <;> simp [bind, Except.bind]

theorem stringAt_eq_ok {doc : Json} {key text : String} (hkey : index? key = none) :
    doc.stringAt (.ofKeys [key]) = .ok text ↔ doc.get? key = some (.str text) := by
  rw [stringAt_eq_ok_iff, pointer_ofKeys, follow_cons hkey, follow_nil, Option.bind_fun_some]

end IssueTracker.Json
