import IssueTracker.Comment
import IssueTracker.Proofs.Document
import IssueTracker.Tracker.Routes
/-!
# Documents of comments

What a tracker's documents of comments hold. A tracker numbers its comments, so that no two
have the same id and a new one has an id that was never there.
-/

namespace IssueTracker

namespace Comment

/-- What is read depends on five members only. -/
theorem ofJson_congr {doc doc' : Json}
    (h : ∀ key ∈ ["id", "body", "author", "created", "updated"], doc.get? key = doc'.get? key) :
    ofJson doc = ofJson doc' := by
  simp only [List.mem_cons, List.not_mem_nil, or_false, forall_eq_or_imp, forall_eq] at h
  obtain ⟨hid, hbody, hauthor, hcreated, hupdated⟩ := h
  simp (disch := decide) only [ofJson, Json.stringAt, Json.stringAt?, Json.idAt, Json.timestampAt, Json.valueAt,
    Json.pointer_ofKeys, Json.follow_cons, hid, hbody, hauthor, hcreated, hupdated]

/-- A comment is read when each of its parts is. -/
theorem ofJson_eq_ok {doc : Json} {c : Comment} : ofJson doc = .ok c ↔
    (∃ name, doc.stringAt (.ofKeys ["author", "name"]) = .ok name ∧
      c.author = .ofAccount name ((doc.stringAt? (.ofKeys ["author", "displayName"])).getD name)) ∧
    doc.idAt (.ofKeys ["id"]) = .ok c.id ∧ doc.stringAt (.ofKeys ["body"]) = .ok c.body ∧
    doc.timestampAt (.ofKeys ["created"]) = .ok c.createdAt ∧
    doc.timestampAt (.ofKeys ["updated"]) = .ok c.updatedAt := by
  obtain ⟨id, body, author, createdAt, updatedAt⟩ := c
  unfold ofJson
  cases doc.stringAt (.ofKeys ["author", "name"]) <;> cases doc.idAt (.ofKeys ["id"]) <;>
    cases doc.stringAt (.ofKeys ["body"]) <;> cases doc.timestampAt (.ofKeys ["created"]) <;>
      cases doc.timestampAt (.ofKeys ["updated"]) <;> simp [bind, Except.bind, pure, Except.pure]
  grind

/-- A comment has the body of its document, and its id where that is a text. -/
theorem of_ofJson {doc : Json} {c : Comment} (h : ofJson doc = .ok c) :
    doc.get? "body" = some (.str c.body) ∧ ∀ id, doc.get? "id" = some (.str id) → c.id = id := by
  obtain ⟨-, hid, hbody, -⟩ := ofJson_eq_ok.1 h
  refine ⟨(Json.stringAt_eq_ok (by decide)).1 hbody, fun id hget => ?_⟩
  rw [Json.idAt, Json.valueAt, Json.pointer_ofKeys, Json.follow_cons (by decide), hget] at hid
  exact (Except.ok.inj hid).symm

end Comment

/-! ## Numbers as ids -/

theorem toString_nat_injective {m n : Nat} (h : toString m = toString n) : m = n := by
  -- Digits can be read as the number again.
  have hdigits : Nat.toDigits 10 m = Nat.toDigits 10 n := by
    simpa [toString, Nat.repr] using congrArg String.toList h
  rw [← Nat.ofDigitChars_ten_toDigits (n := m), hdigits, Nat.ofDigitChars_ten_toDigits]

theorem notMem_toString {c : Char} (hc : c.isDigit = false) (n : Nat) : c ∉ (toString n).toList := by
  intro h
  have hmem : c ∈ Nat.toDigits 10 n := by simpa [toString, Nat.repr] using h
  have hdigit := Nat.isDigit_of_mem_toDigits (by decide) (by decide) hmem
  rw [hc] at hdigit
  cases hdigit

/-! ## New comments -/

namespace Tracker

variable (t : Tracker) (author body : String)

theorem commentsOf_putComments (key other : String) (docs : List Json) :
    (t.putComments key docs).commentsOf other = if other = key then docs else t.commentsOf other := by
  rw [commentsOf, putComments, Table.get?_insert]
  split <;> rfl

theorem get?_newComment (key : String) : (t.newComment author body).get? key =
    Table.get? key (Table.ofEntries [
      ("id", .str (toString t.nextCommentId)),
      ("body", .str body),
      ("author", .ofMembers [("name", .str author), ("displayName", .str (displayName author))]),
      ("created", .str createdStamp),
      ("updated", .str createdStamp)]) := rfl

theorem get?_restricted {key : String} (h : key ≠ "visibility") (request comment : Json) :
    (restricted request comment).get? key = comment.get? key := by
  unfold restricted
  split
  · exact Json.get?_set_of_ne h comment _
  · rfl

/-- When every comment was created. -/
def createdAt : Timestamp := ⟨1709288130000000000⟩

/-- When every comment that was changed was updated. -/
def updatedAt : Timestamp := ⟨1709366400000000000⟩

theorem parse?_createdStamp : Timestamp.parse? createdStamp = some createdAt := by decide +kernel

theorem parse?_updatedStamp : Timestamp.parse? updatedStamp = some updatedAt := by decide +kernel

/-- A time that is written in a member is read from it. -/
theorem timestampAt_member {doc : Json} {key stamp : String} {time : Timestamp} (hkey : Json.index? key = none)
    (hget : doc.get? key = some (.str stamp)) (hparse : Timestamp.parse? stamp = some time) :
    doc.timestampAt (.ofKeys [key]) = .ok time := by
  rw [Json.timestampAt, (Json.stringAt_eq_ok hkey).2 hget]
  simp only [bind, Except.bind, hparse]

/-- A new comment is read with its number, body and author, and is as old as every other. -/
theorem ofJson_newComment : Comment.ofJson (t.newComment author body) =
    .ok ⟨toString t.nextCommentId, body, .ofAccount author (displayName author), createdAt, createdAt⟩ := by
  have hauthor : (t.newComment author body).get? "author" =
      some (.ofMembers [("name", .str author), ("displayName", .str (displayName author))]) := by
    simp [get?_newComment]
  have hname : (t.newComment author body).stringAt (.ofKeys ["author", "name"]) = .ok author := by
    rw [Json.stringAt, Json.valueAt, Json.pointer_ofKeys, Json.follow_cons (by decide), hauthor]
    simp (disch := decide) [Json.follow_cons, Json.get?_ofMembers]
    rfl
  have hfull : (t.newComment author body).stringAt? (.ofKeys ["author", "displayName"]) =
      some (displayName author) := by
    rw [Json.stringAt?, Json.pointer_ofKeys, Json.follow_cons (by decide), hauthor]
    simp (disch := decide) [Json.follow_cons, Json.get?_ofMembers, Json.asString?]
  refine Comment.ofJson_eq_ok.2 ⟨⟨author, hname, by rw [hfull]; rfl⟩, ?_, ?_, ?_, ?_⟩
  · rw [Json.idAt, Json.valueAt, Json.pointer_ofKeys, Json.follow_cons (by decide), get?_newComment]
    simp
    rfl
  · rw [Json.stringAt_eq_ok (by decide), get?_newComment]
    simp
  · exact timestampAt_member (by decide) (by simp [get?_newComment]) parse?_createdStamp
  · exact timestampAt_member (by decide) (by simp [get?_newComment]) parse?_createdStamp

/-- A restriction does not matter for what is read. -/
theorem ofJson_restricted (request comment : Json) :
    Comment.ofJson (restricted request comment) = Comment.ofJson comment := by
  refine Comment.ofJson_congr fun key hkey => get?_restricted ?_ request comment
  rintro rfl
  simp at hkey

/-! ## Changed comments -/

section Changed

variable {request doc : Json} {c : Comment} {text key : String} (hread : Comment.ofJson doc = .ok c)
  (hrequest : request.getD "body" = .str text)
include hread hrequest

/-- A change of a comment sets its body and its time of change. -/
theorem get?_changeComment (hkey : key ≠ "visibility") : (changeComment request doc).get? key =
    if key = "updated" then some (.str updatedStamp)
    else if key = "body" then some (.str text)
    else doc.get? key := by
  -- What has a body is an object, in which there is a place for another.
  obtain ⟨bodied, hbodied⟩ := Json.set?_of_get? (Comment.of_ofJson hread).1 "body" (.str text)
  have hbody : bodied.get? "body" = some (.str text) := by rw [Json.get?_of_set? hbodied, if_pos rfl]
  obtain ⟨stamped, hstamped⟩ := Json.set?_of_get? hbody "updated" (.str updatedStamp)
  have hchanged : changeComment request doc = restricted request stamped := by
    simp [changeComment, hrequest, Json.set, hbodied, hstamped]
  rw [hchanged, get?_restricted hkey, Json.get?_of_set? hstamped, Json.get?_of_set? hbodied]

/-- A changed comment is read with the new body and the time of change, and is the same otherwise. -/
theorem ofJson_changeComment :
    Comment.ofJson (changeComment request doc) = .ok { c with body := text, updatedAt } := by
  obtain ⟨⟨name, hname, hauthor⟩, hid, -, hcreated, -⟩ := Comment.ofJson_eq_ok.1 hread
  have hother {key : String} (hkey : key ∉ ["visibility", "updated", "body"]) :
      (changeComment request doc).get? key = doc.get? key := by
    simp only [List.mem_cons, List.not_mem_nil, or_false, not_or] at hkey
    rw [get?_changeComment hread hrequest hkey.1, if_neg hkey.2.1, if_neg hkey.2.2]
  refine Comment.ofJson_eq_ok.2 ⟨⟨name, ?_, ?_⟩, ?_, ?_, ?_, ?_⟩
  · rw [Json.stringAt_congr (by decide) (hother (by decide)), hname]
  · rw [Json.stringAt?, Json.pointer_congr (by decide) (hother (by decide)), hauthor]
    rfl
  · rw [← hid, Json.idAt, Json.idAt, Json.valueAt, Json.valueAt, Json.pointer_congr (by decide) (hother (by decide))]
  · rw [Json.stringAt_eq_ok (by decide), get?_changeComment hread hrequest (by decide), if_neg (by decide), if_pos rfl]
  · rw [← hcreated, Json.timestampAt, Json.timestampAt, Json.stringAt_congr (by decide) (hother (by decide))]
  · have hupdated : (changeComment request doc).get? "updated" = some (.str updatedStamp) := by
      rw [get?_changeComment hread hrequest (by decide), if_pos rfl]
    exact timestampAt_member (by decide) hupdated parse?_updatedStamp

end Changed

end Tracker

end IssueTracker
