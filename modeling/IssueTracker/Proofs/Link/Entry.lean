import Mathlib.Data.List.Basic
import IssueTracker.Link.EntryForm
import IssueTracker.Proofs.Document
import IssueTracker.Tracker.Routes
/-!
# Links and their entries

The entry of a link describes the link again, apart from the id it is now stored under, whatever
number the tracker has put into it. What is needed is that the addresses in the link are read the
way they are written, as addresses are that were read once.
-/

namespace IssueTracker

open Json (Pointer)

/-- The text of an address is an address, and the same one. -/
def Url.ReadsBack (u : Url) : Prop := Url.parse u.text = .ok u

instance (u : Url) : Decidable u.ReadsBack := inferInstanceAs (Decidable (Url.parse u.text = .ok u))

namespace WebLink

/-- The link as it is read from its entry. -/
def stored (l : WebLink) : WebLink := { l with storedId := some l.globalId }

/-- All addresses of the link read back. -/
structure ReadsBack (l : WebLink) : Prop where
  uri : l.uri.ReadsBack
  icon : ∀ u, l.icon.url = some u → u.ReadsBack
  statusIcon : ∀ u, l.statusIcon.url = some u → u.ReadsBack

/-- The id of the link is this library's mark and a text of the link's address, though not
always the text it is written by. -/
def Addressed (l : WebLink) : Prop :=
  ∃ text, l.globalId = idMark ++ text ∧ Url.parse text = .ok l.uri

/-- A link that can be kept: it is written the way it is read, and its id gives its address. -/
structure Keepable (l : WebLink) : Prop where
  readsBack : l.ReadsBack
  addressed : l.Addressed

theorem stored_beq (l : WebLink) : (l.stored == l) = true := by
  simp [BEq.beq, unstored, stored]

/-- Links that were read from entries are the same when stored again. -/
theorem stored_of_isSome {l : WebLink} (h : l.storedId.isSome) : l.stored = l := by
  obtain ⟨id, hid⟩ := Option.isSome_iff_exists.1 h
  cases l
  simp_all [stored, globalId]

theorem ReadsBack.of_stored {l : WebLink} (h : l.ReadsBack) : l.stored.ReadsBack := ⟨h.uri, h.icon, h.statusIcon⟩

theorem Addressed.of_stored {l : WebLink} (h : l.Addressed) : l.stored.Addressed := h

theorem Keepable.of_stored {l : WebLink} (h : l.Keepable) : l.stored.Keepable :=
  ⟨h.readsBack.of_stored, h.addressed.of_stored⟩

/-- A new link is addressed by its own text. -/
theorem ReadsBack.addressed {l : WebLink} (h : l.ReadsBack) (hl : l.storedId = none) : l.Addressed :=
  ⟨l.uri.text, by simp [globalId, hl, derivedId], h.uri⟩

/-- Two links with one id have one address. -/
theorem Addressed.uri_eq {l l' : WebLink} (h : l.Addressed) (h' : l'.Addressed)
    (hid : l.globalId = l'.globalId) : l.uri = l'.uri := by
  obtain ⟨text, ht, hp⟩ := h
  obtain ⟨text', ht', hp'⟩ := h'
  have heq : idMark ++ text = idMark ++ text' := by rw [← ht, ← ht', hid]
  obtain rfl : text = text' := String.append_right_inj idMark |>.1 heq
  exact Except.ok.inj (hp.symm.trans hp')

end WebLink

namespace WebLink.EntryForm

/-! ## Own entries -/

/-- An entry is this library's own when its id starts with the mark. -/
theorem isOwn_iff {entry : Json} :
    isOwn entry = true ↔ ∃ text, entry.get? "globalId" = some (.str (idMark ++ text)) := by
  unfold isOwn
  constructor
  · intro h
    split at h
    · rename_i id hid
      obtain ⟨value, hvalue, hstr⟩ := Option.bind_eq_some_iff.1 hid
      obtain ⟨rest, hrest⟩ := List.isPrefixOf_iff_prefix.1 h
      cases value with
      | str s =>
        obtain rfl : s = id := Option.some.inj hstr
        refine ⟨String.ofList rest, hvalue.trans ?_⟩
        congr
        rw [← String.ofList_toList (s := s), ← hrest, String.ofList_append, String.ofList_toList]
      | _ => cases hstr
    · cases h
  · rintro ⟨text, h⟩
    simp [h, Json.asString?, String.toList_append]

theorem globalIdOf_of_get? {entry : Json} {value : Json} (h : entry.get? "globalId" = some value) :
    Tracker.globalIdOf entry = value := by
  simp [Tracker.globalIdOf, Json.getD, h]

theorem get?_of_globalIdOf {entry : Json} {id : String} (h : Tracker.globalIdOf entry = .str id) :
    entry.get? "globalId" = some (.str id) := by
  unfold Tracker.globalIdOf Json.getD at h
  cases hget : entry.get? "globalId" with
  | none => simp [hget] at h
  | some value => simpa [hget] using h

/-- The link of an entry is stored under the entry's id. -/
theorem storedId_of_read {entry : Json} {l : WebLink} {warnings : List Warning}
    (h : read entry = .ok (l, warnings)) : l.storedId = entry.stringAt? (.ofKeys ["globalId"]) := by
  simp only [EntryForm.read, bind, Except.bind] at h
  split at h
  · cases h
  · rename_i raw _
    cases hurl : Url.parse raw with
    | error e => simp [hurl] at h
    | ok uri =>
      simp only [hurl] at h
      split at h
      · cases h
      · cases h
        rfl

theorem storedId_of_own {entry : Json} {l : WebLink} {warnings : List Warning} {id : String}
    (hid : entry.get? "globalId" = some (.str id)) (h : read entry = .ok (l, warnings)) :
    l.storedId = some id := by
  rw [storedId_of_read h, Json.stringAt?, Json.pointer_ofKeys, Json.follow_cons (by decide), hid]
  simp [Json.asString?]

/-! ## Reading what was written -/

theorem get?_optional (key other : String) (text : Option String) :
    Table.get? other (Table.ofEntries (optional key text)) =
      if other = key then text.map .str else none := by
  cases text with
  | none => simp [optional]
  | some text => simp [optional]

/-- What is read depends on three members only. -/
theorem read_congr {entry entry' : Json}
    (h : ∀ key ∈ ["globalId", "object", "relationship"], entry.get? key = entry'.get? key) :
    read entry = read entry' := by
  simp only [List.mem_cons, List.not_mem_nil, or_false, forall_eq_or_imp, forall_eq] at h
  obtain ⟨hid, hobject, hrelationship⟩ := h
  have hindex : Json.index? "object" = none ∧ Json.index? "relationship" = none ∧
      Json.index? "globalId" = none := by decide
  simp only [read, iconUrl, Json.stringAt, Json.stringAt?, Json.valueAt, Json.pointer_ofKeys,
    Json.follow_cons hindex.1, Json.follow_cons hindex.2.1, Json.follow_cons hindex.2.2, hid, hobject,
    hrelationship]

theorem iconUrl_of_stringAt? {entry : Json} {p : Pointer} {url : Option Url}
    (h : entry.stringAt? p = url.map Url.text) (hurl : ∀ u, url = some u → u.ReadsBack) :
    iconUrl entry p = (url, []) := by
  cases url with
  | none => simp [iconUrl, h]
  | some u => simp [iconUrl, h, show Url.parse u.text = .ok u from hurl u rfl]

theorem get?_iconObject_url (icon : Icon) :
    ((iconObject icon).get? "url16x16").bind Json.asString? = icon.url.map Url.text := by
  rw [iconObject, Json.get?_ofMembers, Table.get?_ofEntries_append, get?_optional, get?_optional]
  cases icon.url <;> simp [Json.asString?]

theorem get?_iconObject_title (icon : Icon) :
    ((iconObject icon).get? "title").bind Json.asString? = icon.title := by
  rw [iconObject, Json.get?_ofMembers, Table.get?_ofEntries_append, get?_optional, get?_optional]
  cases icon.title <;> simp [Json.asString?]

/-- What stands in the object of an entry. -/
def renderObject (l : WebLink) : Json :=
  .ofMembers ([
    ("url", .str l.uri.text),
    ("title", .str l.title),
    ("icon", iconObject l.icon),
    ("status", .ofMembers [("resolved", .bool l.resolved), ("icon", iconObject l.statusIcon)])] ++
    optional "summary" l.summary)

theorem pointer_render_object (l : WebLink) (keys : List String) :
    (render l).pointer (.ofKeys ("object" :: keys)) = Json.follow keys (renderObject l) := by
  rw [Json.pointer_ofKeys, Json.follow_cons (by decide), render, Json.get?_ofMembers, Table.get?_ofEntries_append,
    get?_optional]
  simp [renderObject]

/-- The members of the object, the optional one last. -/
theorem get?_renderObject (l : WebLink) (key : String) :
    (renderObject l).get? key =
      (if key = "summary" then l.summary.map Json.str else none).or
        (Table.get? key (Table.ofEntries [
          ("url", .str l.uri.text),
          ("title", .str l.title),
          ("icon", iconObject l.icon),
          ("status", .ofMembers [("resolved", .bool l.resolved), ("icon", iconObject l.statusIcon)])])) := by
  rw [renderObject, Json.get?_ofMembers, Table.get?_ofEntries_append, get?_optional]

/-- The entry that is written for a link describes the link. -/
theorem read_render {l : WebLink} (h : l.ReadsBack) : read (render l) = .ok (l.stored, []) := by
  -- What stands at each of the places that are read.
  have huri : (render l).stringAt (.ofKeys ["object", "url"]) = .ok l.uri.text := by
    simp (disch := decide) [Json.stringAt, Json.valueAt, pointer_render_object, Json.follow_cons, get?_renderObject]
    rfl
  have htitle : (render l).stringAt (.ofKeys ["object", "title"]) = .ok l.title := by
    simp (disch := decide) [Json.stringAt, Json.valueAt, pointer_render_object, Json.follow_cons, get?_renderObject]
    rfl
  have hsummary : (render l).stringAt? (.ofKeys ["object", "summary"]) = l.summary := by
    rw [Json.stringAt?, pointer_render_object]
    simp (disch := decide) [Json.follow_cons, get?_renderObject]
    cases l.summary <;> rfl
  have hrelationship : (render l).stringAt? (.ofKeys ["relationship"]) = l.relationship := by
    rw [Json.stringAt?, Json.pointer_ofKeys, Json.follow_cons (by decide), render, Json.get?_ofMembers,
      Table.get?_ofEntries_append, get?_optional]
    cases l.relationship <;> simp [Json.asString?]
  have hid : (render l).stringAt? (.ofKeys ["globalId"]) = some l.globalId := by
    rw [Json.stringAt?, Json.pointer_ofKeys, Json.follow_cons (by decide), render, Json.get?_ofMembers,
      Table.get?_ofEntries_append, get?_optional]
    simp [Json.asString?]
  have hresolved : ((render l).pointer (.ofKeys ["object", "status", "resolved"])).bind Json.asBool? =
      some l.resolved := by
    simp (disch := decide) [pointer_render_object, Json.follow_cons, get?_renderObject, Json.get?_ofMembers,
      Json.asBool?]
  have hicon (key : String) (hkey : Json.index? key = none) :
      (render l).stringAt? (.ofKeys ["object", "icon", key]) = ((iconObject l.icon).get? key).bind Json.asString? := by
    rw [Json.stringAt?, pointer_render_object, Json.follow_cons (by decide), get?_renderObject]
    simp [Json.follow_cons hkey]
  have hstatusIcon (key : String) (hkey : Json.index? key = none) :
      (render l).stringAt? (.ofKeys ["object", "status", "icon", key]) =
        ((iconObject l.statusIcon).get? key).bind Json.asString? := by
    rw [Json.stringAt?, pointer_render_object, Json.follow_cons (by decide), get?_renderObject]
    simp [Json.follow_cons (show Json.index? "icon" = none by decide), Json.follow_cons hkey, Json.get?_ofMembers]
  have hiconUrl : iconUrl (render l) (.ofKeys ["object", "icon", "url16x16"]) = (l.icon.url, []) :=
    iconUrl_of_stringAt? ((hicon _ (by decide)).trans (get?_iconObject_url l.icon)) h.icon
  have hstatusIconUrl :
      iconUrl (render l) (.ofKeys ["object", "status", "icon", "url16x16"]) = (l.statusIcon.url, []) :=
    iconUrl_of_stringAt? ((hstatusIcon _ (by decide)).trans (get?_iconObject_url l.statusIcon)) h.statusIcon
  have huri' : Url.parse l.uri.text = .ok l.uri := h.uri
  simp only [read, huri, bind, Except.bind, huri', htitle, hiconUrl, hstatusIconUrl, hsummary, hrelationship,
    hresolved, hid, hicon "title" (by decide), hstatusIcon "title" (by decide), get?_iconObject_title]
  rfl

/-- The entry of a link with a number. -/
def numbered (l : WebLink) (number : Json) : Json := (render l).set "id" number

theorem get?_render_globalId (l : WebLink) : (render l).get? "globalId" = some (.str l.globalId) := by
  rw [render, Json.get?_ofMembers, Table.get?_ofEntries_append, get?_optional]
  simp

theorem set?_render (l : WebLink) (number : Json) : (render l).set? "id" number = some (numbered l number) := by
  obtain ⟨entry, hset⟩ := Json.set?_of_get? (get?_render_globalId l) "id" number
  simp [numbered, Json.set, hset]

theorem get?_numbered_globalId (l : WebLink) (number : Json) :
    (numbered l number).get? "globalId" = some (.str l.globalId) := by
  rw [Json.get?_of_set? (set?_render l number), get?_render_globalId]
  rfl

theorem getD_numbered_id (l : WebLink) (number : Json) : (numbered l number).getD "id" = number := by
  rw [Json.getD, Json.get?_of_set? (set?_render l number)]
  rfl

/-- The number does not matter for what is read. -/
theorem read_numbered {l : WebLink} (h : l.ReadsBack) (number : Json) :
    read (numbered l number) = .ok (l.stored, []) := by
  rw [← read_render h]
  refine read_congr fun key hkey => ?_
  have hne : key ≠ "id" := by
    rintro rfl
    simp at hkey
  rw [Json.get?_of_set? (set?_render l number), if_neg hne]

/-! ## Entries with more members -/

/-- An entry into which somebody has put more members. -/
def extended (entry : Json) (more : List (String × Json)) : Json :=
  more.foldl (fun entry member => entry.set member.1 member.2) entry

theorem get?_extended {key : String} {more : List (String × Json)} (h : ∀ member ∈ more, member.1 ≠ key)
    (entry : Json) : (extended entry more).get? key = entry.get? key := by
  induction more generalizing entry with
  | nil => rfl
  | cons member rest ih =>
    rw [extended, List.foldl_cons, ← extended, ih fun other hother => h other (List.mem_cons_of_mem _ hother)]
    exact Json.get?_set_of_ne (h member List.mem_cons_self).symm entry member.2

/-- Nobody reads members under other names. -/
theorem read_extended {entry : Json} {more : List (String × Json)}
    (h : ∀ member ∈ more, member.1 ∉ ["globalId", "object", "relationship"]) :
    read (extended entry more) = read entry := by
  refine read_congr fun key hkey => get?_extended (fun member hmember heq => ?_) entry
  exact h member hmember (heq ▸ hkey)

/-- A link that is read from its entry is written the same way. -/
theorem render_stored (l : WebLink) : render l.stored = render l := rfl

/-- The entry of a link describes the link, whatever members somebody adds to it, and the link that is read
from it has the same entry again. The same goes for a link that was read from an entry of any kind, which
may hold more than the link and spell it in another way. -/
theorem entry_round_trip :
    (∀ l : WebLink, l.ReadsBack → ∀ more : List (String × Json),
      (∀ member ∈ more, member.1 ∉ ["globalId", "object", "relationship"]) →
      ∃ l', read (extended (render l) more) = .ok (l', []) ∧ (l' == l) = true ∧ l'.globalId = l.globalId ∧
        render l' = render l) ∧
    ∀ (entry : Json) (l : WebLink) (warnings : List Warning), read entry = .ok (l, warnings) → l.ReadsBack →
      ∃ l', read (render l) = .ok (l', []) ∧ (l' == l) = true ∧ l'.globalId = l.globalId ∧
        ∀ id, entry.get? "globalId" = some (.str id) → l' = l ∧ l'.globalId = id := by
  refine ⟨fun l hl more hmore => ?_, fun entry l warnings hread hl => ?_⟩
  · exact ⟨l.stored, (read_extended hmore).trans (read_render hl), l.stored_beq, rfl, render_stored l⟩
  · refine ⟨l.stored, read_render hl, l.stored_beq, rfl, fun id hid => ?_⟩
    have hstored : l.storedId = some id := storedId_of_own hid hread
    exact ⟨stored_of_isSome (by simp [hstored]), by simp [globalId, stored, hstored]⟩

/-- A link with all that a link can have, under an id that is not the text of its address. -/
def decorated : WebLink where
  uri := ⟨"git".toList, some (.ofHost "example.org".toList), [], none, none⟩
  title := "Repository"
  summary := some "Mirror"
  relationship := some "mentioned in"
  resolved := true
  icon := ⟨some ⟨"git".toList, some (.ofHost "icons.example.org".toList), [], none, none⟩, none⟩
  statusIcon := ⟨some ⟨"git".toList, some (.ofHost "states.example.org".toList), [], none, none⟩, some "Done"⟩
  storedId := some "skaralink=GIT://example.org"

/-- The tracker's number and an application change nothing. -/
theorem entry_round_trip_decorated :
    let more := [("id", Json.num (.int 500)), ("application", Json.empty), ("id", Json.null)]
    decorated.ReadsBack ∧ (∀ member ∈ more, member.1 ∉ ["globalId", "object", "relationship"]) ∧
      ∃ l, read (extended (render decorated) more) = .ok (l, []) ∧ (l == decorated) = true ∧
        ∃ l', read (render l) = .ok (l', []) ∧ l' = l := by
  intro more
  have hreads : decorated.ReadsBack := by
    refine ⟨by decide +kernel, ?_, ?_⟩
    · rintro u ⟨⟩
      decide +kernel
    · rintro u ⟨⟩
      decide +kernel
  have hmore : ∀ member ∈ more, member.1 ∉ ["globalId", "object", "relationship"] := by decide
  obtain ⟨l, hread, hbeq, -, hrender⟩ := entry_round_trip.1 decorated hreads more hmore
  have hl : l = decorated.stored := by
    have hstored := (@read_extended (render decorated) more hmore).trans (read_render hreads)
    exact (Prod.mk.inj (Except.ok.inj (hread.symm.trans hstored))).1
  have hid : (extended (render decorated) more).get? "globalId" = some (.str "skaralink=GIT://example.org") := by
    rw [get?_extended (by decide)]
    exact get?_render_globalId decorated
  obtain ⟨l', hread', -, -, hsame⟩ := entry_round_trip.2 _ l [] hread (hl ▸ hreads.of_stored)
  exact ⟨hreads, hmore, l, hread, hbeq, l', hread', (hsame _ hid).1⟩

end WebLink.EntryForm

end IssueTracker
