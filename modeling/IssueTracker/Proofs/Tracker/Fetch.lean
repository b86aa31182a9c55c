import IssueTracker.Proofs.Tracker.Orderly
/-!
# Fetching issues

What fetching an issue comes to. A document describes a snapshot when it has a key, a title and a status,
whatever else is in it. A tracker in order gives such a document for an id exactly when it has an issue
that goes by this id.
-/

namespace IssueTracker

open Tracker (fieldOf? pointer_field)

/-! ## Snapshots of documents -/

namespace Snapshot

variable {document changed value : Json} {s : Snapshot} {field : String}

/-- A document describes a snapshot when it has the three texts that a snapshot needs. -/
theorem ofJson_eq_ok : ofJson document = .ok s ↔ ∃ id title status,
    document.get? "key" = some (.str id) ∧ fieldOf? document "summary" = some (.str title) ∧
      (fieldOf? document "status").bind (Json.get? "name") = some (.str status) ∧
      s = ⟨document, id, Text.trim title, status, some (labelsOf document)⟩ := by
  have htitle : document.pointer (.ofKeys ["fields", "summary"]) = fieldOf? document "summary" := by
    rw [pointer_field (by decide), Json.follow_nil, Option.bind_fun_some]
  have hstatus : document.pointer (.ofKeys ["fields", "status", "name"]) =
      (fieldOf? document "status").bind (Json.get? "name") := by
    rw [pointer_field (by decide)]
    congr 1
    funext value
    rw [Json.follow_cons (by decide), Json.follow_nil, Option.bind_fun_some]
  simp only [← Json.stringAt_eq_ok (show Json.index? "key" = none by decide), ← htitle, ← hstatus,
    ← Json.stringAt_eq_ok_iff]
  unfold ofJson
  cases document.stringAt (.ofKeys ["key"]) <;> cases document.stringAt (.ofKeys ["fields", "summary"]) <;>
    cases document.stringAt (.ofKeys ["fields", "status", "name"]) <;>
      simp [bind, Except.bind, pure, Except.pure, eq_comm]

theorem document_of_ofJson (h : ofJson document = .ok s) : s.document = document := by
  obtain ⟨id, title, status, -, -, -, rfl⟩ := ofJson_eq_ok.1 h
  rfl

theorem get?_key_of_ofJson (h : ofJson document = .ok s) : document.get? "key" = some (.str s.id) := by
  obtain ⟨id, title, status, hkey, -, -, rfl⟩ := ofJson_eq_ok.1 h
  exact hkey

/-- A document in which nothing changes that a snapshot needs goes on describing one. -/
theorem ofJson_congr (h : ofJson document = .ok s) (hkey : changed.get? "key" = document.get? "key")
    (hfields : ∀ field ∈ ["summary", "status"], fieldOf? changed field = fieldOf? document field) :
    ∃ s', ofJson changed = .ok s' := by
  obtain ⟨id, title, status, hid, htitle, hstatus, -⟩ := ofJson_eq_ok.1 h
  rw [← hfields _ (by decide)] at htitle hstatus
  exact ⟨_, ofJson_eq_ok.2 ⟨id, title, status, hkey.trans hid, htitle, hstatus, rfl⟩⟩

end Snapshot

/-! ## What is found -/

namespace Tracker

variable {t t' : Tracker} {r : Request} {document : Json}

/-- What reading gives and has a key is the document of an issue. -/
theorem issue_of_get (hkeyless : ∀ key, ∀ doc ∈ t.commentsOf key, doc.get? "key" = none) (hr : r.method = .get)
    (hanswer : (t.respond r).2 = .ok document) (hkey : document.get? "key" ≠ none) :
    ∃ key, Text.split '/' r.path = ["issue", key] ∧ Table.get? key t.issues = some document := by
  generalize hsegments : Text.split '/' r.path = segments
  rw [respond_eq t r hsegments] at hanswer
  -- One case for each route, in their order.
  unfold route at hanswer
  split at hanswer
  · rename_i key
    unfold issueRoute at hanswer
    split at hanswer
    · cases hanswer
    · rename_i issue hissue
      simp only [hr] at hanswer
      obtain rfl := Except.ok.inj hanswer
      exact ⟨key, rfl, hissue⟩
  · simp [hr, route.noRoute] at hanswer
  · unfold commentsRoute at hanswer
    split at hanswer
    · cases hanswer
    · simp only [hr] at hanswer
      obtain rfl := Except.ok.inj hanswer
      simp [Json.get?_ofMembers] at hkey
  · unfold commentRoute at hanswer
    dsimp only at hanswer
    split at hanswer
    · cases hanswer
    · rename_i i hi
      simp only [hr] at hanswer
      obtain rfl := Except.ok.inj hanswer
      obtain ⟨hlt, -, -⟩ := List.findIdx?_eq_some_iff_getElem.1 hi
      rw [List.getElem?_eq_getElem hlt, Option.getD_some] at hkey
      exact absurd (hkeyless _ _ (List.getElem_mem hlt)) hkey
  · unfold transitionsRoute at hanswer
    split at hanswer
    · cases hanswer
    · simp only [hr] at hanswer
      obtain rfl := Except.ok.inj hanswer
      simp [Json.get?_ofMembers] at hkey
  · unfold remoteLinksRoute at hanswer
    split at hanswer
    · cases hanswer
    · simp only [hr] at hanswer
      split at hanswer
      · cases hanswer
      · obtain rfl := Except.ok.inj hanswer
        exact absurd rfl hkey
  · simp [hr, route.noRoute] at hanswer
  · simp only [hr, if_pos] at hanswer
    obtain rfl := Except.ok.inj hanswer
    simp [linkTypesDocument, Json.get?_ofMembers] at hkey
  · cases hanswer

/-- A tracker has an issue that goes by an id, and its document describes a snapshot. -/
structure Finds (t : Tracker) (id : String) (s : Snapshot) : Prop where
  slashFree : '/' ∉ id.toList
  stored : Table.get? id t.issues = some s.document
  describes : Snapshot.ofJson s.document = .ok s

namespace Finds

variable {id : String} {s : Snapshot}

theorem of_issues (h : t.Finds id s) (heq : t'.issues = t.issues) : t'.Finds id s :=
  ⟨h.slashFree, by rw [heq, h.stored], h.describes⟩

theorem of_unlogged (h : t.Finds id s) (heq : t'.unlogged = t.unlogged) : t'.Finds id s :=
  h.of_issues (congrArg issues heq :)

theorem known (h : t.Finds id s) : Table.contains id t.issues = true := by
  rw [Table.contains, h.stored]
  rfl

variable (ht : t.Orderly)
include ht

theorem id_eq (h : t.Finds id s) : s.id = id := by
  have hkey := (ht.filed _ _ h.stored).key
  rw [Snapshot.get?_key_of_ofJson h.describes] at hkey
  exact Json.str.inj (Option.some.inj hkey)

theorem on (h : t.Finds id s) : s.On t := by
  rw [← h.id_eq ht] at h
  exact ⟨h.slashFree, h.known⟩

end Finds

end Tracker

/-- A path to an issue holds its id alone. -/
theorem Text.split_issue {id key : String} (h : split '/' ("issue/" ++ id) = ["issue", key]) :
    key = id ∧ '/' ∉ id.toList := by
  have hpath : ("issue/" ++ id).toList = "issue".toList ++ '/' :: id.toList := by simp [String.toList_append]
  rw [split, hpath, splitOn_append (by decide), List.map_cons, List.cons.injEq] at h
  obtain ⟨piece, hpieces, rfl⟩ := List.map_eq_singleton_iff.1 h.2
  have hslash : '/' ∉ id.toList := by
    have hlength := length_splitOn '/' id.toList
    rw [hpieces, List.length_singleton] at hlength
    exact List.count_eq_zero.1 (by omega)
  rw [splitOn_of_notMem hslash, List.cons.injEq] at hpieces
  rw [← hpieces.1, String.ofList_toList]
  exact ⟨rfl, hslash⟩

namespace World

variable {w : World} {id : String} {s : Snapshot}

/-- Fetching finds what the answer describes. An answer that counts as none describes nothing. -/
theorem result_issue_eq_some : w.result (Project.issue id) = .ok (some s) ↔
    ∃ document, (w.tracker.respond ((Request.get ("issue/" ++ id)).onStatus 404 .null)).2 = .ok document ∧
      Snapshot.ofJson document = .ok s := by
  let r := (Request.get ("issue/" ++ id)).onStatus 404 .null
  have hnull {document : Json} (h : Snapshot.ofJson document = .ok s) : document.isNull = false := by
    have hkey := Snapshot.get?_key_of_ofJson h
    cases document with
    | null => cases hkey
    | _ => rfl
  rw [Project.issue, result_bind_eq_ok]
  constructor
  · rintro ⟨document, hdocument, hfound⟩
    rw [result_execute] at hdocument
    split at hfound
    · cases hfound
    · rename_i hnull
      rw [result_bind_eq_ok] at hfound
      obtain ⟨s', hs', heq⟩ := hfound
      cases heq
      cases hanswer : (w.tracker.respond r).2 with
      | ok document' =>
        rw [hanswer] at hdocument
        obtain rfl : document' = document := Except.ok.inj hdocument
        exact ⟨document', rfl, hs'⟩
      | error e =>
        -- A tolerated error stands for `null`, which is no issue.
        rw [hanswer] at hdocument
        obtain ⟨code, body, rfl⟩ : ∃ code body, e = .status code body := by
          cases e <;> first | exact ⟨_, _, rfl⟩ | cases hdocument
        simp only [Request.settle, Request.tolerate?, Request.onStatus, Request.get, List.nil_append] at hdocument
        by_cases hcode : (404 : Nat) = code
        · simp only [hcode, List.find?_cons_of_pos, decide_true, Option.map_some, Except.ok.injEq] at hdocument
          exact absurd (hdocument ▸ rfl) hnull
        · simp [hcode] at hdocument
  · rintro ⟨document, hanswer, hs⟩
    refine ⟨document, ?_, ?_⟩
    · rw [result_execute, hanswer]
      rfl
    · rw [if_neg (by simp [hnull hs])]
      exact (result_bind_ok _ (p := .done (Snapshot.ofJson document)) hs _).trans rfl

/-- Where an issue goes by an id, its snapshot is found. -/
theorem result_issue_of_finds (h : w.tracker.Finds id s) : w.result (Project.issue id) = .ok (some s) := by
  let r := (Request.get ("issue/" ++ id)).onStatus 404 .null
  have hsplit : Text.split '/' r.path = ["issue", id] := by
    have hpath : r.path.toList = "issue".toList ++ '/' :: id.toList := by
      simp [r, Request.onStatus, Request.get, String.toList_append]
    rw [Text.split, hpath, Text.splitOn_append (by decide), Text.splitOn_of_notMem h.slashFree]
    simp
  have hstored : Table.get? id (w.tracker.noted r).issues = some s.document := h.stored
  refine result_issue_eq_some.2 ⟨s.document, ?_, h.describes⟩
  rw [Tracker.respond_eq _ _ hsplit]
  unfold Tracker.route Tracker.issueRoute
  simp only [hstored]
  rfl

/-- A tracker in order finds the snapshots of its issues, each by the key of its issue, and no others. -/
theorem result_issue (hw : w.tracker.Orderly) : w.result (Project.issue id) = .ok (some s) ↔ w.tracker.Finds id s := by
  refine ⟨fun h => ?_, result_issue_of_finds⟩
  obtain ⟨document, hanswer, hs⟩ := result_issue_eq_some.1 h
  have hkey : document.get? "key" ≠ none := by
    rw [Snapshot.get?_key_of_ofJson hs]
    exact Option.some_ne_none _
  obtain ⟨key, hsplit, hstored⟩ := Tracker.issue_of_get hw.keyless rfl hanswer hkey
  obtain ⟨rfl, hslash⟩ := Text.split_issue hsplit
  obtain rfl := Snapshot.document_of_ofJson hs
  exact ⟨hslash, hstored, hs⟩

/-- What is fetched of an issue is what its document describes. -/
theorem result_issue_stored (hw : w.tracker.Orderly) (hid : '/' ∉ id.toList) {issue : Json}
    (hstored : Table.get? id w.tracker.issues = some issue) :
    w.result (Project.issue id) = .ok (some s) ↔ Snapshot.ofJson issue = .ok s := by
  rw [result_issue hw]
  constructor
  · intro h
    rw [Option.some.inj (hstored.symm.trans h.stored)]
    exact h.describes
  · intro h
    obtain rfl := Snapshot.document_of_ofJson h
    exact ⟨hid, hstored, h⟩

end World

end IssueTracker
