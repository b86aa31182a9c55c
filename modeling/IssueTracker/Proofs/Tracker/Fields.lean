import IssueTracker.Proofs.Document
import IssueTracker.Proofs.Table
import IssueTracker.Snapshot.Operations
import IssueTracker.Tracker.Routes
/-!
# Fields of issues

What changes make of the fields of an issue. All of them set single fields, so that what setting
one field keeps is kept by every change, also by one that fails halfway. An issue that is filed under
its key has a table of fields, and there is always a place for another.
-/

namespace IssueTracker

/-- A change of one field sets this field. -/
theorem Snapshot.fields_fieldsQuery (field : String) (value : Json) :
    (((fieldsQuery field value).get? "fields").bind Json.asObject?).getD [] = [(field, value)] := by
  have hfields : (fieldsQuery field value).get? "fields" = some (.ofMembers [(field, value)]) := by
    simp [fieldsQuery, Json.get?_ofMembers]
  rw [hfields]
  rfl

namespace Tracker

open Json (Pointer)

variable {issue changed value : Json} {field key : String}

/-- The value of a field. -/
def fieldOf? (issue : Json) (field : String) : Option Json := (issue.getD "fields").get? field

theorem pointer_field (hfield : Json.index? field = none) (issue : Json) (keys : List String) :
    issue.pointer (.ofKeys ("fields" :: field :: keys)) = (fieldOf? issue field).bind (Json.follow keys) := by
  rw [Json.pointer_ofKeys, Json.follow_cons (by decide), fieldOf?, Json.getD]
  cases issue.get? "fields" with
  | none => rfl
  | some fields => exact Json.follow_cons hfield keys fields

/-! ## Setting a field -/

section WithField

variable (h : withField? field value issue = some changed)
include h

theorem fieldOf?_withField? (other : String) :
    fieldOf? changed other = if other = field then some value else fieldOf? issue other := by
  obtain ⟨fields, hfields, hissue⟩ := Option.bind_eq_some_iff.1 h
  rw [fieldOf?, Json.getD, Json.get?_of_set? hissue, if_pos rfl, Option.getD_some, Json.get?_of_set? hfields, fieldOf?]

theorem get?_withField? (hkey : key ≠ "fields") : changed.get? key = issue.get? key := by
  obtain ⟨fields, -, hissue⟩ := Option.bind_eq_some_iff.1 h
  rw [Json.get?_of_set? hissue, if_neg hkey]

end WithField

/-! ## Stored links -/

theorem itemsAt_withIssueLink? {entry : Json} (h : withIssueLink? entry issue = some changed) :
    changed.itemsAt (.ofKeys ["fields", "issuelinks"]) =
      issue.itemsAt (.ofKeys ["fields", "issuelinks"]) ++ [entry] := by
  have hlinks (issue : Json) : issue.pointer (.ofKeys ["fields", "issuelinks"]) = fieldOf? issue "issuelinks" := by
    rw [pointer_field (by decide), Json.follow_nil, Option.bind_fun_some]
  rw [Json.itemsAt, Json.itemsAt, hlinks, hlinks, fieldOf?_withField? h, if_pos rfl]
  rfl

section Entry

variable (type : LinkType) (other : String)

/-- The name of a type is found in every entry, whatever member names the other issue. -/
theorem stringAt_issueLinkEntry_type (member : String) {side text : String} (hmember : member ≠ "type")
    (hside : Json.index? side = none) (htext : type.toJson.get? side = some (.str text)) :
    (issueLinkEntry type member other).stringAt (.ofKeys ["type", side]) = .ok text := by
  rw [Json.stringAt_eq_ok_iff]
  simp (disch := decide) [Json.pointer_ofKeys, Json.follow_cons, Json.follow_cons hside, issueLinkEntry,
    Json.get?_ofMembers, hmember.symm, htext]

/-- The entry that stands with the inward end reads as the outward name. -/
theorem readIssueLink_outwardIssue :
    Snapshot.readIssueLink (issueLinkEntry type "outwardIssue" other) = .ok (other, type.outward) := by
  have hinward : (issueLinkEntry type "outwardIssue" other).get? "inwardIssue" = none := by
    simp [issueLinkEntry, Json.get?_ofMembers]
  have hkey : (issueLinkEntry type "outwardIssue" other).stringAt (.ofKeys ["outwardIssue", "key"]) = .ok other := by
    rw [Json.stringAt_eq_ok_iff]
    simp (disch := decide) [Json.pointer_ofKeys, Json.follow_cons, issueLinkEntry, Json.get?_ofMembers]
  have htext : type.toJson.get? "outward" = some (.str type.outward) := by
    simp [LinkType.toJson, Json.get?_ofMembers]
  have hname := stringAt_issueLinkEntry_type type other "outwardIssue" (by decide) (by decide) htext
  simp only [Snapshot.readIssueLink, hinward, hkey, hname, bind, Except.bind]
  rfl

/-- The entry that stands with the outward end reads as the inward name. -/
theorem readIssueLink_inwardIssue :
    Snapshot.readIssueLink (issueLinkEntry type "inwardIssue" other) = .ok (other, type.inward) := by
  have hinward : (issueLinkEntry type "inwardIssue" other).get? "inwardIssue" =
      some (.ofMembers [("key", .str other)]) := by
    simp [issueLinkEntry, Json.get?_ofMembers]
  have hkey : (Json.ofMembers [("key", .str other)]).stringAt (.ofKeys ["key"]) = .ok other :=
    (Json.stringAt_eq_ok (by decide)).2 (by simp [Json.get?_ofMembers])
  have htext : type.toJson.get? "inward" = some (.str type.inward) := by simp [LinkType.toJson, Json.get?_ofMembers]
  have hname := stringAt_issueLinkEntry_type type other "inwardIssue" (by decide) (by decide) htext
  simp only [Snapshot.readIssueLink, hinward, hkey, hname, bind, Except.bind]
  rfl

end Entry

/-! ## Properties that changes keep -/

/-- Setting a field to a value keeps a property of issues. -/
def SettingKeeps (P : Json → Prop) (field : String) (value : Json) : Prop :=
  ∀ issue changed, P issue → withField? field value issue = some changed → P changed

section Keeps

variable {P : Json → Prop} (hP : P issue)
include hP

theorem setFields_keeps {pairs : List (String × Json)} (h : ∀ pair ∈ pairs, SettingKeeps P pair.1 pair.2) :
    P (setFields issue pairs).1 := by
  induction pairs generalizing issue with
  | nil => exact hP
  | cons pair rest ih =>
    obtain ⟨field, value⟩ := pair
    rw [setFields]
    split
    · rename_i changed hset
      exact ih (h _ List.mem_cons_self _ _ hP hset) fun pair hpair => h pair (List.mem_cons_of_mem _ hpair)
    · exact hP

theorem labelOperations_keeps (h : ∀ labels, SettingKeeps P "labels" labels) (operations : List Json) :
    P (labelOperations issue operations).1 := by
  induction operations generalizing issue with
  | nil => exact hP
  | cons operation rest ih =>
    rw [labelOperations]
    dsimp only
    split
    · exact hP
    · rename_i changed hset
      have hchanged := h _ _ _ hP hset
      split
      · exact ih hchanged
      · exact hchanged

/-- A change sets the fields that it names, labels where it operates on them, and the time of change, even
where it fails. -/
theorem changeIssue_keeps_of {body : Json}
    (hpairs : ∀ pair ∈ ((body.get? "fields").bind Json.asObject?).getD [], SettingKeeps P pair.1 pair.2)
    (hlabels : ((body.pointer (.ofKeys ["update", "labels"])).bind Json.asArray?).getD [] = [] ∨
      ∀ labels, SettingKeeps P "labels" labels)
    (hupdated : ∀ stamp, SettingKeeps P "updated" stamp) : P (changeIssue body issue).1 := by
  have hset := setFields_keeps hP hpairs
  rw [changeIssue]
  split
  · rename_i heq
    rwa [heq] at hset
  · rename_i issue₁ heq
    rw [heq] at hset
    have hoperations : P (labelOperations issue₁
        (((body.pointer (.ofKeys ["update", "labels"])).bind Json.asArray?).getD [])).1 := by
      rcases hlabels with hnone | hlabels
      · rw [hnone]
        exact hset
      · exact labelOperations_keeps hset hlabels _
    dsimp only
    split
    · rename_i heq
      rwa [heq] at hoperations
    · rename_i heq
      rw [heq] at hoperations
      split
      · rename_i hstamp
        exact hupdated _ _ _ hoperations hstamp
      · exact hoperations

theorem changeIssue_keeps {body : Json}
    (hpairs : ∀ pair ∈ ((body.get? "fields").bind Json.asObject?).getD [], SettingKeeps P pair.1 pair.2)
    (hlabels : ∀ labels, SettingKeeps P "labels" labels) (hupdated : ∀ stamp, SettingKeeps P "updated" stamp) :
    P (changeIssue body issue).1 :=
  changeIssue_keeps_of hP hpairs (.inr hlabels) hupdated

end Keeps

/-! ## Issues under their keys -/

/-- The document of an issue that is filed under a key: it names the key, and its fields are a table. -/
structure Filed (key : String) (issue : Json) : Prop where
  key : issue.get? "key" = some (.str key)
  fields : ∃ members, issue.get? "fields" = some (.obj members) ∧ Table.Ascending members

namespace Filed

theorem withField? (h : Filed key issue) (field : String) (value : Json) :
    ∃ changed, withField? field value issue = some changed := by
  obtain ⟨members, hfields, -⟩ := h.fields
  obtain ⟨changed, hchanged⟩ := Json.set?_of_get? h.key "fields" (.obj (Table.insert field value members))
  refine ⟨changed, Option.bind_eq_some_iff.2 ⟨.obj (Table.insert field value members), ?_, hchanged⟩⟩
  rw [Json.getD, hfields, Option.getD_some, Json.set?]

theorem setting (key field : String) (value : Json) : SettingKeeps (Filed key) field value := by
  intro issue changed h hset
  obtain ⟨members, hfields, hascending⟩ := h.fields
  have hkey : changed.get? "key" = some (.str key) := by rw [get?_withField? hset (by decide), h.key]
  obtain ⟨fields, hinsert, hissue⟩ := Option.bind_eq_some_iff.1 hset
  rw [Json.getD, hfields, Option.getD_some, Json.set?, Option.some.injEq] at hinsert
  subst hinsert
  exact ⟨hkey, _, by rw [Json.get?_of_set? hissue, if_pos rfl], hascending.insert field value⟩

theorem changeIssue (h : Filed key issue) (body : Json) : Filed key (changeIssue body issue).1 :=
  changeIssue_keeps h (fun pair _ => setting key pair.1 pair.2) (setting key _) (setting key _)

theorem withStatus? {status : String} (h : Filed key issue) (hset : withStatus? status issue = some changed) :
    Filed key changed := by
  obtain ⟨value, -, hset⟩ := Option.bind_eq_some_iff.1 hset
  exact setting key "status" value issue changed h hset

theorem withIssueLink? {entry : Json} (h : Filed key issue) (hset : withIssueLink? entry issue = some changed) :
    Filed key changed :=
  setting key "issuelinks" _ issue changed h hset

end Filed

theorem filed_newIssue (t : Tracker) (key summary status : String) : Filed key (t.newIssue key summary status) := by
  refine ⟨by simp [newIssue, Json.get?_ofMembers], ?_⟩
  rw [newIssue, Json.get?_ofMembers]
  simp only [Table.get?_ofEntries_cons, Table.get?_ofEntries_nil, Option.none_or, if_pos, Option.some_or]
  exact ⟨_, rfl, Table.ascending_ofEntries _⟩

end Tracker

end IssueTracker
