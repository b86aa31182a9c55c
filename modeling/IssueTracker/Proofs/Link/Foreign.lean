import IssueTracker.Proofs.Comment.Framed
import IssueTracker.Proofs.Interspersed
import IssueTracker.Proofs.Json.Erasure
import IssueTracker.Proofs.Link.Posting
import IssueTracker.Proofs.Link.Issues
/-!
# What others keep beside the links

A tracker that holds more than another one: remote-link entries that are not this library's own, and comments
whose texts stand for no link. The links are listed as if nothing of it was there, since entries are picked out
before anything in them is relied on, and any comment with a text can be read.
-/

namespace IssueTracker

open WebLink.EntryForm (isOwn read numbered)
open Tracker (globalIdOf restricted)

/-! ## Documents but for their ids -/

/-- Documents that differ in no more than their ids. -/
def Json.SameButId (a b : Json) : Prop := a.erasePath ["id"] = b.erasePath ["id"]

namespace Json.SameButId

variable {a b : Json}

theorem refl (a : Json) : a.SameButId a := rfl

theorem get? (h : a.SameButId b) {key : String} (hkey : key ≠ "id") : a.get? key = b.get? key := by
  have hplace (doc : Json) : getPath? [key] (erasePath ["id"] doc) = doc.get? key := by
    have hbeyond : beyond [key] ["id"] = [] := if_neg hkey
    rw [getPath?_erasePath (by simp), if_neg (by simp [hkey.symm]), hbeyond, getPath?]
    cases doc.get? key <;> rfl
  rw [← hplace a, ← hplace b, h]

/-- Objects with their members in order are told apart by the members. -/
theorem of_get? {members others : Table Json} (ha : Table.Ascending members) (hb : Table.Ascending others)
    (h : ∀ key, key ≠ "id" → Table.get? key members = Table.get? key others) :
    (obj members).SameButId (obj others) := by
  have heq : Table.assign "id" none members = Table.assign "id" none others := by
    refine (ha.assign "id" none).ext (hb.assign "id" none) fun key => ?_
    rw [Table.get?_assign, Table.get?_assign]
    split
    · rfl
    · exact h key ‹_›
  exact congrArg obj heq

theorem isOwn_eq (h : a.SameButId b) : isOwn a = isOwn b := by
  rw [isOwn, isOwn, h.get? (by decide)]

theorem globalIdOf_eq (h : a.SameButId b) : globalIdOf a = globalIdOf b := by
  rw [globalIdOf, globalIdOf, Json.getD, Json.getD, h.get? (by decide)]

theorem read_eq (h : a.SameButId b) : read a = read b := by
  refine WebLink.EntryForm.read_congr fun key hkey => h.get? ?_
  rintro rfl
  exact absurd hkey (by decide)

theorem postedLink?_eq (h : a.SameButId b) : postedLink? a = postedLink? b := by
  rw [postedLink?, postedLink?, Json.getD, Json.getD, h.get? (by decide)]

/-- Of a comment only the id is read from its id. -/
theorem body_eq (h : a.SameButId b) (ha : ∃ id, a.get? "id" = some (.str id))
    (hb : ∃ id, b.get? "id" = some (.str id)) :
    (Comment.ofJson a).map Comment.body = (Comment.ofJson b).map Comment.body := by
  obtain ⟨ida, ha⟩ := ha
  obtain ⟨idb, hb⟩ := hb
  have hat {doc : Json} {id : String} (hid : doc.get? "id" = some (.str id)) : doc.idAt (.ofKeys ["id"]) = .ok id := by
    rw [Json.idAt, Json.valueAt, Json.pointer_ofKeys, Json.follow_cons (by decide), hid]
    rfl
  have hstring (key : String) (hindex : Json.index? key = none) (hkey : key ≠ "id") (keys : List String) :
      a.stringAt (.ofKeys (key :: keys)) = b.stringAt (.ofKeys (key :: keys)) :=
    Json.stringAt_congr hindex (h.get? hkey) keys
  have htime (key : String) (hindex : Json.index? key = none) (hkey : key ≠ "id") :
      a.timestampAt (.ofKeys [key]) = b.timestampAt (.ofKeys [key]) := by
    rw [Json.timestampAt, Json.timestampAt, hstring key hindex hkey]
  rw [Comment.ofJson, Comment.ofJson, hat ha, hat hb, hstring "author" (by decide) (by decide),
    hstring "body" (by decide) (by decide), htime "created" (by decide) (by decide),
    htime "updated" (by decide) (by decide)]
  cases b.stringAt (.ofKeys ["author", "name"]) <;> cases b.stringAt (.ofKeys ["body"]) <;>
    cases b.timestampAt (.ofKeys ["created"]) <;> cases b.timestampAt (.ofKeys ["updated"]) <;> rfl

end Json.SameButId

/-- An entry may get any number. -/
theorem WebLink.EntryForm.sameButId_numbered (l : WebLink) (m n : Json) : (numbered l m).SameButId (numbered l n) := by
  have hset (n : Json) : ∃ members, Table.Ascending members ∧ numbered l n = .obj members ∧
      ∀ key, key ≠ "id" → Table.get? key members = (render l).get? key := by
    refine ⟨_, (Table.ascending_ofEntries _).insert "id" n, rfl, fun key hkey => Table.get?_insert_ne hkey _ _⟩
  obtain ⟨members, hm, hmembers, hgetm⟩ := hset m
  obtain ⟨others, hn, hothers, hgetn⟩ := hset n
  rw [hmembers, hothers]
  exact .of_get? hm hn fun key hkey => (hgetm key hkey).trans (hgetn key hkey).symm

/-- A new comment may get any number. -/
theorem CommentStore.sameButId_document (store : CommentStore) {t t' : Tracker} (huser : t'.user = t.user)
    (body : String) : (store.document t body).SameButId (store.document t' body) := by
  let members (t : Tracker) : Table Json := Table.ofEntries [
    ("id", .str (toString t.nextCommentId)),
    ("body", .str body),
    ("author", .ofMembers [("name", .str t.user), ("displayName", .str (Tracker.displayName t.user))]),
    ("created", .str Tracker.createdStamp),
    ("updated", .str Tracker.createdStamp)]
  have hmembers (t : Tracker) : Table.Ascending (members t) := Table.ascending_ofEntries _
  have hget : ∀ key, key ≠ "id" → Table.get? key (members t) = Table.get? key (members t') := by
    intro key hkey
    simp [members, huser, hkey]
  have hnew (t : Tracker) : t.newComment t.user body = .obj (members t) := rfl
  rw [document, document, hnew, hnew, restricted, restricted]
  split
  · refine .of_get? ((hmembers t).insert _ _) ((hmembers t').insert _ _) fun key hkey => ?_
    rw [Table.get?_insert, Table.get?_insert, hget key hkey]
  · exact .of_get? (hmembers t) (hmembers t') hget

/-! ## Trackers with more in them -/

/-- Trackers that are the same but for their counters and logs, what is in the second besides, and the ids of
what is in both. What is in the second besides is somebody else's: entries that are not this library's own, and
comments whose texts stand for no link. -/
structure Tracker.Augments (entries docs : String → List Json) (t t' : Tracker) : Prop where
  reachable : t.Reachable
  reachable' : t'.Reachable
  rest : t'.butComments.butRemoteLinks = t.butComments.butRemoteLinks
  remoteLinks : ∀ key, Interspersed Json.SameButId (t.remoteLinksOf key) (entries key) (t'.remoteLinksOf key)
  comments : ∀ key, Interspersed Json.SameButId (t.commentsOf key) (docs key) (t'.commentsOf key)
  notOwn : ∀ key, ∀ entry ∈ entries key, isOwn entry = false
  noLink : ∀ key, ∀ doc ∈ docs key, ∃ body, doc.get? "body" = some (.str body) ∧
    WebLink.CommentForm.parse? body = none

namespace Tracker.Augments

variable {entries docs : String → List Json} {t t' u u' : Tracker} (h : t.Augments entries docs t')
include h

theorem issues_eq : t'.issues = t.issues := (congrArg Tracker.issues h.rest :)

theorem user_eq : t'.user = t.user := (congrArg Tracker.user h.rest :)

theorem workflow_eq : t'.workflow = t.workflow := (congrArg Tracker.workflow h.rest :)

theorem linkTypes_eq : t'.linkTypes = t.linkTypes := (congrArg Tracker.linkTypes h.rest :)

theorem denies_eq : t'.deniesRemoteLinks = t.deniesRemoteLinks := (congrArg Tracker.deniesRemoteLinks h.rest :)

theorem on_iff {s : Snapshot} : s.On t' ↔ s.On t := by
  constructor
  · rintro ⟨hslash, hknown⟩
    exact ⟨hslash, h.issues_eq ▸ hknown⟩
  · rintro ⟨hslash, hknown⟩
    exact ⟨hslash, h.issues_eq.symm ▸ hknown⟩

/-- The logs have no part in it. -/
theorem of_unlogged (hu : u.Reachable) (hu' : u'.Reachable) (heq : u.unlogged = t.unlogged)
    (heq' : u'.unlogged = t'.unlogged) : u.Augments entries docs u' where
  reachable := hu
  reachable' := hu'
  rest := by
    have hu : u.butComments.butRemoteLinks = t.butComments.butRemoteLinks :=
      (congrArg (fun t => t.butComments.butRemoteLinks) heq :)
    have hu' : u'.butComments.butRemoteLinks = t'.butComments.butRemoteLinks :=
      (congrArg (fun t => t.butComments.butRemoteLinks) heq' :)
    rw [hu, hu', h.rest]
  remoteLinks key := by
    rw [remoteLinksOf_of_unlogged heq, remoteLinksOf_of_unlogged heq']
    exact h.remoteLinks key
  comments key := by
    rw [commentsOf_of_unlogged heq, commentsOf_of_unlogged heq']
    exact h.comments key
  notOwn := h.notOwn
  noLink := h.noLink

/-- The own entries are read to the same links. -/
theorem mapM_read (key : String) :
    ((t.remoteLinksOf key).filter isOwn).mapM (fun entry => (read entry).map Prod.fst) =
      ((t'.remoteLinksOf key).filter isOwn).mapM fun entry => (read entry).map Prod.fst := by
  have hown := (h.remoteLinks key).forall₂_filter (fun _ _ hsame => hsame.isOwn_eq) (h.notOwn key)
  refine mapM_congr_of_map ?_
  rw [← List.forall₂_eq_eq_eq, List.forall₂_map_left_iff, List.forall₂_map_right_iff]
  exact hown.imp fun _ _ hsame => by rw [hsame.read_eq]

/-- The comments stand for the same links, and can be read in one tracker if they can in the other. -/
theorem mapM_posted (key : String) :
    ((t.commentsOf key).mapM Comment.ofJson).map linksIn = ((t'.commentsOf key).mapM Comment.ofJson).map linksIn := by
  refine (h.comments key).map_filterMap_mapM (fun a ha b hb hsame => ?_) fun doc hdoc => ?_
  · have hbody := hsame.body_eq (h.reachable.framed key a ha).id (h.reachable'.framed key b hb).id
    have hparse := congrArg (Except.map WebLink.CommentForm.parse?) hbody
    cases hra : Comment.ofJson a <;> cases hrb : Comment.ofJson b <;> simp_all [Except.map]
  · obtain ⟨body, hbody, hnone⟩ := h.noLink key doc hdoc
    obtain ⟨c, hread⟩ := (h.reachable'.framed key doc ((h.comments key).mem_all hdoc)).ofJson hbody
    have hcbody : c.body = body := Json.str.inj (Option.some.inj ((Comment.of_ofJson hread).1.symm.trans hbody))
    rw [hread, ← hnone, ← hcbody]
    rfl

end Tracker.Augments

namespace Tracker

variable {entries docs : String → List Json} {t t' : Tracker}

theorem remoteLinksOf_addRemoteLink (t : Tracker) (key other : String) (entry : Json) :
    (t.addRemoteLink key entry).remoteLinksOf other =
      if other = key then t.remoteLinksOf key ++ [entry] else t.remoteLinksOf other := by
  rw [addRemoteLink, putRemoteLinks, remoteLinksOf, Table.get?_insert]
  split <;> rfl

/-- At first nothing of others is there. -/
theorem Reachable.augments_self (h : t.Reachable) : t.Augments (fun _ => []) (fun _ => []) t where
  reachable := h
  reachable' := h
  rest := rfl
  remoteLinks _ := .refl Json.SameButId.refl _
  comments _ := .refl Json.SameButId.refl _
  notOwn _ _ hentry := by cases hentry
  noLink _ _ hdoc := by cases hdoc

/-- Somebody else adds an entry. -/
theorem Augments.addRemoteLink (h : t.Augments entries docs t') (key : String) {entry : Json}
    (hentry : isOwn entry = false) :
    t.Augments (Function.update entries key (entries key ++ [entry])) docs (t'.addRemoteLink key entry) where
  reachable := h.reachable
  reachable' := h.reachable'.step (.remoteLink _ _ _)
  rest := h.rest
  remoteLinks other := by
    rw [remoteLinksOf_addRemoteLink, Function.update_apply]
    split
    · subst other
      exact (h.remoteLinks key).append_other entry
    · exact h.remoteLinks other
  comments := h.comments
  notOwn other e he := by
    rw [Function.update_apply] at he
    split at he
    · rcases List.mem_append.1 he with he | he
      · exact h.notOwn key e he
      · rwa [List.mem_singleton.1 he]
    · exact h.notOwn other e he
  noLink := h.noLink

/-- Somebody else says something. -/
theorem Augments.addComment (h : t.Augments entries docs t') (key author : String) {body : String}
    (hbody : WebLink.CommentForm.parse? body = none) :
    t.Augments entries (Function.update docs key (docs key ++ [t'.newComment author body]))
      (t'.addComment key author body).1 where
  reachable := h.reachable
  reachable' := h.reachable'.step (.comment _ _ _ _)
  rest := h.rest
  remoteLinks := h.remoteLinks
  comments other := by
    have hcomments : (t'.addComment key author body).1.commentsOf other =
        (t'.putComments key (t'.commentsOf key ++ [t'.newComment author body])).commentsOf other := rfl
    rw [hcomments, commentsOf_putComments, Function.update_apply]
    split
    · subst other
      exact (h.comments key).append_other _
    · exact h.comments other
  notOwn := h.notOwn
  noLink other doc hdoc := by
    rw [Function.update_apply] at hdoc
    split at hdoc
    · rcases List.mem_append.1 hdoc with hdoc | hdoc
      · exact h.noLink key doc hdoc
      · obtain rfl := List.mem_singleton.1 hdoc
        exact ⟨body, t'.get?_newComment author body "body", hbody⟩
    · exact h.noLink other doc hdoc

end Tracker

/-! ## What is fetched -/

/-- A path leads to one of the routes, or nowhere on any tracker. -/
@[elab_as_elim]
theorem Tracker.route_cases {motive : List String → Prop} (issue : ∀ key, motive ["issue", key])
    (assignee : ∀ key, motive ["issue", key, "assignee"]) (comments : ∀ key, motive ["issue", key, "comment"])
    (comment : ∀ key id, motive ["issue", key, "comment", id])
    (transitions : ∀ key, motive ["issue", key, "transitions"])
    (remoteLinks : ∀ key, motive ["issue", key, "remotelink"]) (issueLink : motive ["issueLink"])
    (linkTypes : motive ["issueLinkType"])
    (nowhere : ∀ segments, (∀ (t : Tracker) (r : Request), t.route r segments = (t, route.noRoute r)) → motive segments)
    (segments : List String) : motive segments := by
  by_cases hnowhere : ∀ (t : Tracker) (r : Request), t.route r segments = (t, route.noRoute r)
  · exact nowhere segments hnowhere
  · push Not at hnowhere
    obtain ⟨t, r, hroute⟩ := hnowhere
    unfold route at hroute
    split at hroute
    · exact issue _
    · exact assignee _
    · exact comments _
    · exact comment _ _
    · exact transitions _
    · exact remoteLinks _
    · exact issueLink
    · exact linkTypes
    · exact absurd rfl hroute

/-- Whether an issue has a comment. -/
def Tracker.hasComment (t : Tracker) (key id : String) : Bool := (t.commentsOf key).any (Tracker.hasId id)

/-- A document that is no issue's. -/
structure Json.Keyless (doc : Json) : Prop where
  keyless : doc.get? "key" = none
  notNull : doc.isNull = false

section

variable {t : Tracker} {key id : String} {r : Request}

/-- Comments are no issues. -/
theorem Tracker.Reachable.keyless (h : t.Reachable) {doc : Json} (hdoc : doc ∈ t.commentsOf key) : doc.Keyless := by
  refine ⟨h.orderly.keyless key doc hdoc, ?_⟩
  obtain ⟨id, hid⟩ := (h.framed key doc hdoc).id
  cases doc with
  | null => cases hid
  | _ => rfl

theorem Tracker.commentRoute_of_hasComment (hr : r.method = .get) (h : t.hasComment key id = true) :
    ∃ doc ∈ t.commentsOf key, ((t.noted r).commentRoute key id r).2 = .ok doc := by
  cases hfind : (t.commentsOf key).findIdx? (Tracker.hasId id) with
  | none =>
    obtain ⟨doc, hdoc, hid⟩ := List.any_eq_true.1 h
    rw [List.findIdx?_eq_none_iff.1 hfind doc hdoc] at hid
    cases hid
  | some i =>
    obtain ⟨hi, -, -⟩ := List.findIdx?_eq_some_iff_getElem.1 hfind
    refine ⟨_, List.getElem_mem hi, ?_⟩
    rw [commentRoute, commentsOf_noted, hfind]
    simp only [hr, List.getElem?_eq_getElem hi, Option.getD_some]

theorem Tracker.commentRoute_of_not_hasComment (h : t.hasComment key id = false) :
    ((t.noted r).commentRoute key id r).2 = .error (.notFound ("comment " ++ id)) := by
  have hnone : (t.commentsOf key).findIdx? (Tracker.hasId id) = none := by
    refine List.findIdx?_eq_none_iff.2 fun doc hdoc => ?_
    simpa using List.any_eq_false.1 h doc hdoc
  rw [commentRoute, commentsOf_noted, hnone]

end

/-- What is read is the same document, or in both trackers one that is no issue's. Only where a single comment
is read it matters which comments there are. -/
theorem Tracker.Augments.respond_get {entries docs : String → List Json} {t t' : Tracker}
    (h : t.Augments entries docs t') {r : Request} (hr : r.method = .get)
    (hcomment : ∀ key id, Text.split '/' r.path = ["issue", key, "comment", id] →
      t.hasComment key id = t'.hasComment key id) :
    (t.respond r).2 = (t'.respond r).2 ∨ ∃ doc doc' : Json, (t.respond r).2 = .ok doc ∧ (t'.respond r).2 = .ok doc' ∧
      doc.Keyless ∧ doc'.Keyless := by
  generalize hsegments : Text.split '/' r.path = segments at hcomment
  rw [respond_eq t r hsegments, respond_eq t' r hsegments]
  clear hsegments
  induction segments using route_cases with
  | issue key =>
    left
    simp only [route, issueRoute, noted_issues, h.issues_eq, hr]
    cases Table.get? key t.issues <;> rfl
  | assignee key =>
    left
    simp only [route, hr]
    rfl
  | comments key =>
    simp only [route, commentsRoute, noted_issues, h.issues_eq, hr]
    split
    · exact .inl rfl
    · refine .inr ⟨_, _, rfl, rfl, ⟨?_, rfl⟩, ⟨?_, rfl⟩⟩ <;> simp [Json.get?_ofMembers]
  | comment key id =>
    have hhas := hcomment key id rfl
    simp only [route]
    cases hfind : t.hasComment key id with
    | false =>
      left
      rw [commentRoute_of_not_hasComment hfind, commentRoute_of_not_hasComment (hhas ▸ hfind)]
    | true =>
      obtain ⟨doc, hdoc, hanswer⟩ := commentRoute_of_hasComment hr hfind
      obtain ⟨doc', hdoc', hanswer'⟩ := commentRoute_of_hasComment hr (hhas ▸ hfind)
      exact .inr ⟨doc, doc', hanswer, hanswer', h.reachable.keyless hdoc, h.reachable'.keyless hdoc'⟩
  | transitions key =>
    left
    simp only [route, transitionsRoute, noted_issues, h.issues_eq, hr]
    cases Table.get? key t.issues with
    | none => rfl
    | some issue =>
      simp only [transitionsFrom, noted_workflow, h.workflow_eq]
  | remoteLinks key =>
    simp only [route, remoteLinksRoute, noted_issues, h.issues_eq, hr]
    split
    · exact .inl rfl
    · have hsame : (t'.noted r).deniesRemoteLinks = (t.noted r).deniesRemoteLinks := h.denies_eq
      by_cases hdenies : (t.noted r).deniesRemoteLinks = true
      · left
        rw [if_pos hdenies, if_pos (hsame.trans hdenies)]
      · rw [if_neg hdenies, if_neg (hsame ▸ hdenies)]
        exact .inr ⟨_, _, rfl, rfl, ⟨rfl, rfl⟩, ⟨rfl, rfl⟩⟩
  | issueLink =>
    left
    simp only [route, hr]
    rfl
  | linkTypes =>
    left
    simp only [route, hr]
    exact congrArg (fun types => Except.ok (Json.ofMembers [("issueLinkTypes", .arr (types.map LinkType.toJson))]))
      h.linkTypes_eq.symm
  | nowhere segments hnowhere =>
    left
    rw [hnowhere, hnowhere]

/-- What has no key is no issue, and is refused in the same words. -/
theorem Json.Keyless.ofJson_eq {doc : Json} (h : doc.Keyless) :
    Snapshot.ofJson doc = .error (.document "missing /key") := by
  have hkey : doc.stringAt (.ofKeys ["key"]) = .error (.document "missing /key") := by
    rw [Json.stringAt, Json.valueAt, Json.pointer_ofKeys, Json.follow_cons (by decide), h.keyless]
    rfl
  rw [Snapshot.ofJson, hkey]
  rfl

/-- Fetching an issue is reading the answer. -/
theorem World.result_issue_eq (w : World) (id : String) :
    let r := (Request.get ("issue/" ++ id)).onStatus 404 .null
    w.result (Project.issue id) = (r.settle (w.tracker.respond r).2).bind fun doc =>
      if doc.isNull then .ok none else (Snapshot.ofJson doc).map some := by
  intro r
  rw [Project.issue, World.result_bind, World.result_execute]
  refine congrArg (Except.bind _) (funext fun doc => ?_)
  split
  · rfl
  · cases hread : Snapshot.ofJson doc with
    | error e => exact (World.result_bind _ (.done (.error e)) _).trans rfl
    | ok s => exact (World.result_bind _ (.done (.ok s)) _).trans rfl

/-- The comments that a link of the document leads to, in the place of an issue. -/
def Snapshot.LeadsToComment (s : Snapshot) (key id : String) : Prop :=
  ∃ entry ∈ s.entries, ∃ path relationship, readIssueLink entry = .ok (path, relationship) ∧
    Text.split '/' ("issue/" ++ path) = ["issue", key, "comment", id]

namespace Tracker.Augments

variable {entries docs : String → List Json} {w w' : World} (h : w.tracker.Augments entries docs w'.tracker)
include h

/-- What only reads leaves it so. -/
theorem after_reads {α β : Type} {p : Program α} {q : Program β} (hp : p.Sends Request.Reads)
    (hq : q.Sends Request.Reads) : (w.after p).tracker.Augments entries docs (w'.after q).tracker :=
  h.of_unlogged (h.reachable.after p) (h.reachable'.after q) (World.unlogged_after hp w) (World.unlogged_after hq w')

theorem result_issue (id : String)
    (hcomment : ∀ key comment, Text.split '/' ("issue/" ++ id) = ["issue", key, "comment", comment] →
      w.tracker.hasComment key comment = w'.tracker.hasComment key comment) :
    w.result (Project.issue id) = w'.result (Project.issue id) := by
  rw [w.result_issue_eq, w'.result_issue_eq]
  rcases h.respond_get (r := (Request.get ("issue/" ++ id)).onStatus 404 .null) rfl hcomment with
    hsame | ⟨doc, doc', hdoc, hdoc', hkeyless, hkeyless'⟩
  · rw [hsame]
  · rw [hdoc, hdoc']
    show (if doc.isNull then _ else _) = if doc'.isNull then _ else _
    rw [hkeyless.notNull, hkeyless'.notNull, hkeyless.ofJson_eq, hkeyless'.ofJson_eq]

theorem result_issueLinks {links : List Json}
    (hcomment : ∀ entry ∈ links, ∀ path relationship, Snapshot.readIssueLink entry = .ok (path, relationship) →
      ∀ key id, Text.split '/' ("issue/" ++ path) = ["issue", key, "comment", id] →
        w.tracker.hasComment key id = w'.tracker.hasComment key id) :
    w.result (Snapshot.issueLinks links) = w'.result (Snapshot.issueLinks links) := by
  induction links generalizing w w' with
  | nil => rfl
  | cons entry rest ih =>
    have hfetch : w.result (Snapshot.fetchIssueLink entry) = w'.result (Snapshot.fetchIssueLink entry) := by
      rw [Snapshot.fetchIssueLink, World.result_bind, World.result_bind]
      show (Snapshot.readIssueLink entry).bind _ = (Snapshot.readIssueLink entry).bind _
      cases hread : Snapshot.readIssueLink entry with
      | error e => rfl
      | ok found =>
        obtain ⟨path, relationship⟩ := found
        show w.result (Project.issue path >>= _) = w'.result (Project.issue path >>= _)
        rw [World.result_bind, World.result_bind,
          h.result_issue path (hcomment entry List.mem_cons_self path relationship hread)]
        refine congrArg (Except.bind _) (funext fun target => ?_)
        cases target with
        | none => rw [Program.fail, World.result_done, World.result_done]
        | some target => rw [World.result_pure, World.result_pure]
    have hreads := Snapshot.reads_fetchIssueLink entry
    have hkept (w : World) (key id : String) :
        (w.after (Snapshot.fetchIssueLink entry)).tracker.hasComment key id = w.tracker.hasComment key id := by
      rw [hasComment, hasComment, commentsOf_of_unlogged (World.unlogged_after hreads w)]
    have hrest := ih (h.after_reads hreads hreads) fun entry' hentry' path relationship hread key id hsplit => by
      rw [hkept, hkept]
      exact hcomment entry' (List.mem_cons_of_mem _ hentry') path relationship hread key id hsplit
    rw [Snapshot.issueLinks, World.result_bind, World.result_bind, hfetch]
    refine congrArg (Except.bind _) (funext fun l => ?_)
    rw [World.result_bind, World.result_bind, hrest]
    simp only [World.result_pure]

/-- Where an issue is missing, both trackers say so in the same words, and do nothing. -/
theorem respond_missing {s : Snapshot} {r : Request} (hoff : ¬ s.On w.tracker)
    (hmissing : ∃ what, ∀ t : Tracker, t.CommentsNumbered → ¬ s.On t →
      t.respond r = (t.noted r, .error (.notFound what))) :
    ∃ what, w.tracker.respond r = (w.tracker.noted r, .error (.notFound what)) ∧
      w'.tracker.respond r = (w'.tracker.noted r, .error (.notFound what)) := by
  obtain ⟨what, hmissing⟩ := hmissing
  exact ⟨what, hmissing _ h.reachable.commentsNumbered hoff,
    hmissing _ h.reachable'.commentsNumbered fun hon => hoff (h.on_iff.1 hon)⟩

/-- What begins with asking there fails alike. -/
theorem result_missing {α : Type} {s : Snapshot} {r : Request} (hoff : ¬ s.On w.tracker)
    (hmissing : ∃ what, ∀ t : Tracker, t.CommentsNumbered → ¬ s.On t →
      t.respond r = (t.noted r, .error (.notFound what)))
    (hsettle : ∀ what, r.settle (.error (.notFound what)) = .error (.notFound what)) (f : Json → Program α) :
    w.result (.execute r >>= f) = w'.result (.execute r >>= f) := by
  obtain ⟨what, hanswer, hanswer'⟩ := h.respond_missing hoff hmissing
  have hfails {w : World} (hanswer : w.tracker.respond r = (w.tracker.noted r, .error (.notFound what))) :
      w.result (.execute r) = .error (.notFound what) := by
    rw [World.result_execute, hanswer]
    exact hsettle what
  rw [World.result_bind, World.result_bind, hfails hanswer, hfails hanswer']
  simp only [Except.bind]

/-- The own entries are listed as if there were no others. -/
theorem result_list (s : Snapshot) :
    w.result (RemoteLinks.mk s.path).list = w'.result (RemoteLinks.mk s.path).list := by
  by_cases hon : s.On w.tracker
  · rw [RemoteLinks.result_list_eq hon, RemoteLinks.result_list_eq (h.on_iff.2 hon), h.denies_eq]
    split
    · rfl
    · exact h.mapM_read s.id
  · let r : Request := (Request.get (RemoteLinks.mk s.path).path).onStatus 401 (.arr [])
    rw [RemoteLinks.list]
    exact h.result_missing (r := r) hon (s.remoteLinks_missing rfl) (fun _ => rfl) _

/-- The comments stand for the same links, and in one world they can be listed if they can in the other. -/
theorem result_comments (p : Project) (s : Snapshot) :
    (w.result (s.commentStore p).list).map linksIn = (w'.result (s.commentStore p).list).map linksIn := by
  by_cases hon : s.On w.tracker
  · rw [Snapshot.commentStore, CommentStore.result_list_eq hon p.visibilityRole,
      CommentStore.result_list_eq (h.on_iff.2 hon) p.visibilityRole, h.mapM_posted s.id]
  · let r : Request := (Request.get (s.commentStore p).path).param "maxResults" CommentStore.pageSize
    rw [CommentStore.list]
    exact congrArg _ (h.result_missing (r := r) hon (s.comments_missing rfl) (fun _ => rfl) _)

/-- The links in comments are listed as if there were no other comments. -/
theorem result_listLinks (p : Project) (s : Snapshot) :
    w.result (s.commentStore p).listLinks = w'.result (s.commentStore p).listLinks := by
  have hlinks (w : World) : w.result (s.commentStore p).listLinks =
      (w.result (s.commentStore p).list).map linksIn := by
    rw [CommentStore.listLinks, World.result_bind]
    cases w.result (s.commentStore p).list with
    | error e => rfl
    | ok comments => exact World.result_readLinks _ comments
  rw [hlinks, hlinks, h.result_comments]

/-- The links are listed as if there was nothing else, unless one of them is mistaken for a link to a comment
that is there in one tracker alone. -/
theorem result_links (p : Project) (s : Snapshot) (hcomment : ∀ key id, s.LeadsToComment key id →
      w.tracker.hasComment key id = w'.tracker.hasComment key id) :
    w.result (s.links p) = w'.result (s.links p) := by
  let remote := (RemoteLinks.mk s.path).list
  let posted := (s.commentStore p).listLinks
  have hlisted := h.after_reads (RemoteLinks.mk s.path).reads_list (RemoteLinks.mk s.path).reads_list
  have hposted := hlisted.after_reads (s.commentStore p).reads_listLinks (s.commentStore p).reads_listLinks
  have hkept (w : World) (key id : String) :
      ((w.after remote).after posted).tracker.hasComment key id = w.tracker.hasComment key id := by
    rw [hasComment, hasComment, commentsOf_of_unlogged (World.unlogged_after (s.commentStore p).reads_listLinks _),
      commentsOf_of_unlogged (World.unlogged_after (RemoteLinks.mk s.path).reads_list w)]
  have hissues : ((w.after remote).after posted).result (Snapshot.issueLinks s.entries) =
      ((w'.after remote).after posted).result (Snapshot.issueLinks s.entries) := by
    refine hposted.result_issueLinks fun entry hentry path relationship hread key id hsplit => ?_
    rw [hkept, hkept]
    exact hcomment key id ⟨entry, hentry, path, relationship, hread, hsplit⟩
  rw [Snapshot.links, World.result_bind, World.result_bind, h.result_list s]
  refine congrArg (Except.bind _) (funext fun found => ?_)
  rw [World.result_bind, World.result_bind, hlisted.result_listLinks p s]
  refine congrArg (Except.bind _) (funext fun inComments => ?_)
  rw [World.result_bind, World.result_bind]
  simp only [World.result_pure]
  exact congrArg (Except.bind · _) hissues

end Tracker.Augments

end IssueTracker
