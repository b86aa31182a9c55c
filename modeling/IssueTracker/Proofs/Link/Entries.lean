import IssueTracker.Link.Channel
import IssueTracker.Proofs.Link.Shelf
import IssueTracker.Proofs.Results
/-!
# Entries as a shelf

What the remote-link entries of an issue hold: the links of this library's own entries, under
the entries' ids. Entries of others are no part of it. Putting an entry is adding its link, and
removing the entries with an address is dropping the links with it.
-/

namespace IssueTracker

open WebLink
open WebLink.EntryForm (isOwn read storedId_of_own isOwn_iff globalIdOf_of_get?)
open Tracker (globalIdOf)

/-! ## Entries and what they hold -/

/-- What an entry holds and its id: nothing if it is somebody else's or describes no link. -/
def Held.ofEntry? (entry : Json) : Option (String × Held) :=
  if isOwn entry then
    match read entry with
    | .ok (link, _) => some (link.globalId, ⟨entry.getD "id", link⟩)
    | .error _ => none
  else none

/-- An entry describes a link that can be kept. -/
def Describes (entry : Json) (l : WebLink) : Prop :=
  (∃ warnings, read entry = .ok (l, warnings)) ∧ l.Keepable

/-- Entries of which this library's own have different ids and describe links that can be kept. -/
structure WellKept (entries : List Json) : Prop where
  distinct : entries.Pairwise fun a b => isOwn a → isOwn b → globalIdOf a ≠ globalIdOf b
  describes : ∀ entry ∈ entries, isOwn entry → ∃ l, Describes entry l

/-- An own entry that describes a link holds it under the entry's id. -/
theorem Held.ofEntry?_of_own {entry : Json} {l : WebLink} {id : String}
    (hown : isOwn entry = true) (hid : entry.get? "globalId" = some (.str id)) (h : Describes entry l) :
    Held.ofEntry? entry = some (id, ⟨entry.getD "id", l⟩) := by
  obtain ⟨⟨warnings, hread⟩, -⟩ := h
  simp [Held.ofEntry?, hown, hread, WebLink.globalId, storedId_of_own hid hread]

theorem Held.ofEntry?_of_other {entry : Json} (hown : isOwn entry = false) : Held.ofEntry? entry = none := by
  simp [Held.ofEntry?, hown]

/-- What is held anywhere stands under its link's id, which its entry has. -/
theorem Held.ofEntry?_eq_some {entry : Json} {id : String} {held : Held}
    (h : Held.ofEntry? entry = some (id, held)) :
    isOwn entry = true ∧ entry.get? "globalId" = some (.str id) ∧ held.link.storedId = some id ∧
      ∃ warnings, read entry = .ok (held.link, warnings) := by
  unfold Held.ofEntry? at h
  split at h
  · rename_i hown
    obtain ⟨text, hid⟩ := isOwn_iff.1 hown
    split at h
    · rename_i l warnings hread
      have hstored := storedId_of_own hid hread
      cases h
      refine ⟨hown, ?_, ?_, warnings, hread⟩
      · simp [globalId, hstored, hid]
      · simp [globalId, hstored]
    · cases h
  · cases h

namespace WellKept

variable {entries : List Json}

/-- No two own entries are held under the same id. -/
theorem nodup (h : WellKept entries) : ((entries.filterMap Held.ofEntry?).map Prod.fst).Nodup := by
  rw [List.Nodup, List.pairwise_map, List.pairwise_filterMap]
  refine h.distinct.imp ?_
  rintro a b hab ⟨id, x⟩ ha ⟨id', y⟩ hb rfl
  obtain ⟨haown, haid, -⟩ := Held.ofEntry?_eq_some ha
  obtain ⟨hbown, hbid, -⟩ := Held.ofEntry?_eq_some hb
  refine hab haown hbown ?_
  rw [globalIdOf_of_get? haid, globalIdOf_of_get? hbid]

theorem of_nodup (hdescribes : ∀ entry ∈ entries, isOwn entry → ∃ l, Describes entry l)
    (hnodup : ((entries.filterMap Held.ofEntry?).map Prod.fst).Nodup) : WellKept entries := by
  refine ⟨?_, hdescribes⟩
  rw [List.Nodup, List.pairwise_map, List.pairwise_filterMap] at hnodup
  refine hnodup.imp_of_mem ?_
  intro a b hma hmb hab haown hbown heq
  obtain ⟨x, hx⟩ := hdescribes a hma haown
  obtain ⟨y, hy⟩ := hdescribes b hmb hbown
  obtain ⟨_, ha⟩ := isOwn_iff.1 haown
  obtain ⟨_, hb⟩ := isOwn_iff.1 hbown
  refine hab _ (Held.ofEntry?_of_own haown ha hx) _ (Held.ofEntry?_of_own hbown hb hy) ?_
  rw [globalIdOf_of_get? ha, globalIdOf_of_get? hb] at heq
  exact Json.str.inj heq

/-- What the own entries hold, as a map. -/
def held (h : WellKept entries) : OrderedMap String Held := ⟨entries.filterMap Held.ofEntry?, h.nodup⟩

/-- What is held can be kept. -/
theorem keepable (h : WellKept entries) {id : String} {x : Held}
    (hx : (id, x) ∈ entries.filterMap Held.ofEntry?) : x.link.Keepable := by
  obtain ⟨entry, hentry, hof⟩ := List.mem_filterMap.1 hx
  obtain ⟨hown, -, -, _, hread⟩ := Held.ofEntry?_eq_some hof
  obtain ⟨l, ⟨_, hl⟩, hkeepable⟩ := h.describes entry hentry hown
  obtain rfl : l = x.link := congrArg Prod.fst (Except.ok.inj (hl.symm.trans hread))
  exact hkeepable

end WellKept

/-- The links of the own entries, in their order. -/
def WellKept.links {entries : List Json} (h : WellKept entries) : List WebLink := h.held.values.map Held.link

/-- Reading the own entries in turn gives their links. -/
theorem map_read_own {entries : List Json}
    (hdescribes : ∀ entry ∈ entries, isOwn entry → ∃ l, Describes entry l) :
    (entries.filter isOwn).map (fun entry => (read entry).map Prod.fst) =
      ((entries.filterMap Held.ofEntry?).map fun held => held.2.link).map .ok := by
  induction entries with
  | nil => rfl
  | cons entry rest ih =>
    have ih := ih fun e he => hdescribes e (List.mem_cons_of_mem _ he)
    by_cases hown : isOwn entry = true
    · obtain ⟨l, hl⟩ := hdescribes entry List.mem_cons_self hown
      obtain ⟨text, hid⟩ := isOwn_iff.1 hown
      obtain ⟨warnings, hread⟩ := hl.1
      rw [List.filter_cons_of_pos hown, List.filterMap_cons_some (Held.ofEntry?_of_own hown hid hl),
        List.map_cons, List.map_cons, List.map_cons, ih, hread]
      rfl
    · rw [List.filter_cons_of_neg hown, List.filterMap_cons_none (Held.ofEntry?_of_other (by simpa using hown)), ih]

/-! ## Entries that are read -/

/-- The link of an own entry goes by the entry's id. -/
theorem WebLink.EntryForm.globalIdOf_of_read {entry : Json} {l : WebLink} (hown : isOwn entry = true)
    (h : (read entry).map Prod.fst = .ok l) : globalIdOf entry = .str l.globalId := by
  obtain ⟨text, hid⟩ := isOwn_iff.1 hown
  cases hread : read entry with
  | error e => simp [hread, Except.map] at h
  | ok pair =>
    obtain ⟨l', warnings⟩ := pair
    obtain rfl : l' = l := by simpa [hread, Except.map] using h
    rw [globalIdOf_of_get? hid, globalId, storedId_of_own hid hread]
    rfl

/-- An entry with the id of an addressed link is own. -/
theorem isOwn_of_globalId {entry : Json} {l : WebLink} (hl : l.Addressed)
    (hid : entry.get? "globalId" = some (.str l.globalId)) : isOwn entry = true := by
  obtain ⟨text, htext, -⟩ := hl
  exact isOwn_iff.2 ⟨text, htext ▸ hid⟩

/-- The links that the own ones of some entries describe. -/
def Shows (entries : List Json) (links : List WebLink) : Prop :=
  (entries.filter isOwn).map (fun entry => (read entry).map Prod.fst) = links.map .ok

namespace Shows

variable {entry : Json} {entries : List Json} {links : List WebLink}

theorem cons_other (hown : isOwn entry = false) : Shows (entry :: entries) links ↔ Shows entries links := by
  rw [Shows, List.filter_cons_of_neg (by simp [hown]), Shows]

theorem cons_own (hown : isOwn entry = true) :
    Shows (entry :: entries) links ↔
      ∃ l rest, links = l :: rest ∧ (read entry).map Prod.fst = .ok l ∧ Shows entries rest := by
  rw [Shows, List.filter_cons_of_pos hown, List.map_cons]
  cases links with
  | nil => simp
  | cons l rest => simp [Shows, and_assoc, eq_comm]

/-- A link that is shown goes by the id of an own entry. -/
theorem exists_of_mem (h : Shows entries links) {l : WebLink} (hl : l ∈ links) :
    ∃ entry ∈ entries, isOwn entry = true ∧ globalIdOf entry = .str l.globalId := by
  obtain ⟨entry, hentry, hread⟩ := source_of_mem h hl
  obtain ⟨hmem, hown⟩ := List.mem_filter.1 hentry
  exact ⟨entry, hmem, hown, WebLink.EntryForm.globalIdOf_of_read hown hread⟩

/-- What an own entry describes is shown. -/
theorem exists_of_own (h : Shows entries links) {entry : Json} (hentry : entry ∈ entries) (hown : isOwn entry = true) :
    ∃ l ∈ links, (read entry).map Prod.fst = .ok l :=
  result_of_mem h (List.mem_filter.2 ⟨hentry, hown⟩)

/-- What remains of the entries is shown too. -/
theorem filter (h : Shows entries links) (keep : Json → Bool) : ∃ rest, Shows (entries.filter keep) rest := by
  refine exists_map_ok fun entry hentry => ?_
  obtain ⟨hmem, hown⟩ := List.mem_filter.1 hentry
  obtain ⟨l, -, hread⟩ := h.exists_of_own (List.mem_filter.1 hmem).1 hown
  exact ⟨l, hread⟩

end Shows

theorem WellKept.shows {entries : List Json} (h : WellKept entries) : Shows entries h.links := by
  rw [Shows, map_read_own h.describes]
  simp [WellKept.links, OrderedMap.values, WellKept.held]

/-! ## Putting an entry -/

/-- The entries with the first of a kind replaced, or with a new one at the end. -/
def upserted (p : Json → Bool) (replace : Json → Json) (last : Json) : List Json → List Json
  | [] => [last]
  | entry :: rest => if p entry then replace entry :: rest else entry :: upserted p replace last rest

section Upserted

variable {p : Json → Bool} (replace : Json → Json) (last : Json) {entries : List Json}

theorem set_of_findIdx? {i : Nat} (h : entries.findIdx? p = some i) :
    entries.set i (replace (entries[i]?.getD .null)) = upserted p replace last entries := by
  induction entries generalizing i with
  | nil => cases h
  | cons entry rest ih =>
    rw [List.findIdx?_cons] at h
    unfold upserted
    by_cases hp : p entry
    · rw [if_pos hp] at h ⊢
      cases h
      rfl
    · rw [if_neg hp] at h ⊢
      obtain ⟨j, hj, rfl⟩ := Option.map_eq_some_iff.1 h
      rw [← ih hj]
      rfl

theorem append_of_findIdx? (h : entries.findIdx? p = none) :
    entries ++ [last] = upserted p replace last entries := by
  induction entries with
  | nil => rfl
  | cons entry rest ih =>
    rw [List.findIdx?_eq_none_iff] at h ih
    have hp : ¬ p entry = true := by simp [h entry List.mem_cons_self]
    rw [upserted, if_neg hp, ← ih fun e he => h e (List.mem_cons_of_mem _ he)]
    rfl

theorem mem_upserted {entry : Json} (h : entry ∈ upserted p replace last entries) :
    entry ∈ entries ∨ entry = last ∨ ∃ old ∈ entries, p old = true ∧ entry = replace old := by
  induction entries with
  | nil => exact .inr (.inl (List.mem_singleton.1 h))
  | cons first rest ih =>
    unfold upserted at h
    split at h
    · rename_i hp
      rcases List.mem_cons.1 h with rfl | h
      · exact .inr (.inr ⟨first, List.mem_cons_self, hp, rfl⟩)
      · exact .inl (List.mem_cons_of_mem _ h)
    · rcases List.mem_cons.1 h with rfl | h
      · exact .inl List.mem_cons_self
      · rcases ih h with h | h | ⟨old, hold, h⟩
        · exact .inl (List.mem_cons_of_mem _ h)
        · exact .inr (.inl h)
        · exact .inr (.inr ⟨old, List.mem_cons_of_mem _ hold, h⟩)

end Upserted

/-- The entries with a link's entry, which takes place and number of the one with its id. -/
def putEntries (l : WebLink) (number : Json) (entries : List Json) : List Json :=
  upserted (globalIdOf · == .str l.globalId) (fun old => EntryForm.numbered l (old.getD "id"))
    (EntryForm.numbered l number) entries

/-- What is new among the entries is the entry of the link. -/
theorem mem_putEntries {l : WebLink} {number : Json} {entries : List Json} {entry : Json}
    (h : entry ∈ putEntries l number entries) :
    entry ∈ entries ∨ ∃ number, entry = EntryForm.numbered l number := by
  rcases mem_upserted _ _ h with h | rfl | ⟨old, -, -, rfl⟩
  · exact .inl h
  · exact .inr ⟨_, rfl⟩
  · exact .inr ⟨_, rfl⟩

section Put

variable {l : WebLink} (hl : l.Keepable) (number : Json)
include hl

theorem describes_numbered : Describes (EntryForm.numbered l number) l.stored :=
  ⟨⟨[], EntryForm.read_numbered hl.readsBack number⟩, hl.of_stored⟩

theorem isOwn_numbered : isOwn (EntryForm.numbered l number) = true :=
  isOwn_of_globalId hl.addressed (EntryForm.get?_numbered_globalId l number)

theorem Held.ofEntry?_numbered :
    Held.ofEntry? (EntryForm.numbered l number) = some (l.globalId, ⟨number, l.stored⟩) := by
  have h := Held.ofEntry?_of_own (isOwn_numbered hl number) (EntryForm.get?_numbered_globalId l number)
    (describes_numbered hl number)
  rwa [EntryForm.getD_numbered_id] at h

/-- The keys are the ids of the entries, as far as links can have them. -/
theorem WellKept.mem_keys {entries : List Json} (h : WellKept entries) :
    l.globalId ∈ h.held.keys ↔ entries.any (globalIdOf · == .str l.globalId) = true := by
  rw [List.any_eq_true]
  constructor
  · intro hmem
    obtain ⟨⟨id, x⟩, hx, rfl⟩ := List.mem_map.1 hmem
    obtain ⟨entry, hentry, hof⟩ := List.mem_filterMap.1 hx
    refine ⟨entry, hentry, ?_⟩
    rw [Json.beq_str, globalIdOf_of_get? (Held.ofEntry?_eq_some hof).2.1]
  · rintro ⟨entry, hentry, hp⟩
    have hid := EntryForm.get?_of_globalIdOf ((Json.beq_str _ _).1 hp)
    have hown := isOwn_of_globalId hl.addressed hid
    obtain ⟨l', hl'⟩ := h.describes entry hentry hown
    exact List.mem_map_of_mem (List.mem_filterMap.2 ⟨entry, hentry, Held.ofEntry?_of_own hown hid hl'⟩)

theorem filterMap_putEntries {entries : List Json}
    (hdescribes : ∀ entry ∈ entries, isOwn entry → ∃ l, Describes entry l) :
    (putEntries l number entries).filterMap Held.ofEntry? =
      OrderedMap.putEntry l.globalId (fun old => ⟨(old.map Held.number).getD number, l.stored⟩)
        (entries.filterMap Held.ofEntry?) := by
  induction entries with
  | nil => simp [putEntries, upserted, OrderedMap.putEntry, Held.ofEntry?_numbered hl]
  | cons entry rest ih =>
    have ih := ih fun e he => hdescribes e (List.mem_cons_of_mem _ he)
    unfold putEntries at ih ⊢
    unfold upserted
    by_cases hp : globalIdOf entry = .str l.globalId
    · -- The entry with the link's id is own, so it describes a link too.
      have hid := EntryForm.get?_of_globalIdOf hp
      have hown := isOwn_of_globalId hl.addressed hid
      obtain ⟨l', hl'⟩ := hdescribes entry List.mem_cons_self hown
      rw [if_pos ((Json.beq_str _ _).2 hp), List.filterMap_cons_some (Held.ofEntry?_of_own hown hid hl'),
        List.filterMap_cons_some (Held.ofEntry?_numbered hl _)]
      simp [OrderedMap.putEntry]
    · rw [if_neg fun h => hp ((Json.beq_str _ _).1 h)]
      cases hof : Held.ofEntry? entry with
      | none => rw [List.filterMap_cons_none hof, List.filterMap_cons_none hof, ih]
      | some held =>
        obtain ⟨id, x⟩ := held
        have hne : id ≠ l.globalId := by
          rintro rfl
          exact hp (globalIdOf_of_get? (Held.ofEntry?_eq_some hof).2.1)
        rw [List.filterMap_cons_some hof, List.filterMap_cons_some hof, ih, OrderedMap.putEntry, if_neg hne]

theorem WellKept.put {entries : List Json} (h : WellKept entries) : WellKept (putEntries l number entries) := by
  -- That ids stay distinct is known of the map already.
  apply WellKept.of_nodup
  · intro entry hentry hown
    rcases mem_putEntries hentry with hentry | ⟨n, rfl⟩
    · exact h.describes entry hentry hown
    · exact ⟨_, describes_numbered hl n⟩
  · rw [filterMap_putEntries hl number h.describes]
    exact (h.held.put l.globalId _).nodup

theorem WellKept.held_put {entries : List Json} (h : WellKept entries) :
    (h.put hl number).held =
      h.held.put l.globalId fun old => ⟨(old.map Held.number).getD number, l.stored⟩ :=
  OrderedMap.ext (filterMap_putEntries hl number h.describes)

/-- Entries of others stay. -/
theorem others_putEntries (entries : List Json) :
    (putEntries l number entries).filter (!isOwn ·) = entries.filter (!isOwn ·) := by
  induction entries with
  | nil => simp [putEntries, upserted, isOwn_numbered hl]
  | cons entry rest ih =>
    unfold putEntries at ih ⊢
    unfold upserted
    by_cases hp : globalIdOf entry = .str l.globalId
    · have hown := isOwn_of_globalId hl.addressed (EntryForm.get?_of_globalIdOf hp)
      simp [hp, hown, isOwn_numbered hl]
    · rw [if_neg fun h => hp ((Json.beq_str _ _).1 h), List.filter_cons, List.filter_cons, ih]

end Put

/-! ## Removing entries -/

/-- The entries without those of some ids. -/
def withoutIds (ids : List String) (entries : List Json) : List Json :=
  entries.filter fun entry => !ids.any fun id => globalIdOf entry == .str id

@[simp] theorem withoutIds_nil (entries : List Json) : withoutIds [] entries = entries := by
  simp [withoutIds]

theorem withoutIds_cons (id : String) (ids : List String) (entries : List Json) :
    withoutIds (id :: ids) entries = withoutIds ids (withoutIds [id] entries) := by
  simp [withoutIds, List.filter_filter, Bool.and_comm]

theorem mem_addId {ids : List String} {id other : String} :
    other ∈ RemoteLinks.addId ids id ↔ other ∈ ids ∨ other = id := by
  unfold RemoteLinks.addId
  split
  · rename_i h
    have hmem : id ∈ ids := by simpa using h
    constructor
    · exact .inl
    · rintro (h | rfl)
      · exact h
      · exact hmem
  · simp

theorem mem_foldl_addId {more ids : List String} {id : String} :
    id ∈ more.foldl RemoteLinks.addId ids ↔ id ∈ ids ∨ id ∈ more := by
  induction more generalizing ids with
  | nil => simp
  | cons first more ih => rw [List.foldl_cons, ih, mem_addId, List.mem_cons, or_assoc]

/-- The ids to remove: the link's own and those of the links with its address. -/
theorem mem_idsToRemove {l : WebLink} {stored : List WebLink} {id : String} :
    id ∈ RemoteLinks.idsToRemove l stored ↔
      id = l.globalId ∨ ∃ l' ∈ stored, l'.uri = l.uri ∧ l'.globalId = id := by
  simp [RemoteLinks.idsToRemove, mem_foldl_addId, and_assoc]

/-- Whether an entry is own and describes a link with an address. -/
def leadsTo (uri : Url) (entry : Json) : Bool :=
  isOwn entry && ((read entry).map Prod.fst).toOption.any (·.uri = uri)

theorem leadsTo_of_read {uri : Url} {entry : Json} {l : WebLink} (hown : isOwn entry = true)
    (h : (read entry).map Prod.fst = .ok l) : leadsTo uri entry = decide (l.uri = uri) := by
  rw [leadsTo, hown, h]
  rfl

/-- The ids of the own entries give the addresses of their links, however they spell them. -/
def Traceable (entries : List Json) : Prop :=
  ∀ entry ∈ entries, isOwn entry = true → ∀ l, (read entry).map Prod.fst = .ok l → l.Addressed

theorem traceable_of_describes {entries : List Json}
    (hdescribes : ∀ entry ∈ entries, isOwn entry → ∃ l, Describes entry l) : Traceable entries := by
  intro entry hentry hown l hread
  obtain ⟨l', ⟨_, hread'⟩, hkeepable⟩ := hdescribes entry hentry hown
  obtain rfl : l' = l := by simpa [hread', Except.map] using hread
  exact hkeepable.addressed

/-- Removing the ids for a link removes exactly the entries that lead to its address. -/
theorem withoutIds_idsToRemove {l : WebLink} (hl : l.Addressed) {entries : List Json} {links : List WebLink}
    (hshows : Shows entries links) (htraceable : Traceable entries) :
    withoutIds (RemoteLinks.idsToRemove l links) entries = entries.filter (!leadsTo l.uri ·) := by
  refine List.filter_congr fun entry hentry => ?_
  rw [Bool.not_inj_iff, Bool.eq_iff_iff, List.any_eq_true]
  constructor
  · -- Every id to remove is one of a link with the address, and ids give addresses.
    rintro ⟨id, hid, hbeq⟩
    obtain ⟨l', hl', huri, rfl⟩ : ∃ l' : WebLink, l'.Addressed ∧ l'.uri = l.uri ∧ l'.globalId = id := by
      rcases mem_idsToRemove.1 hid with rfl | ⟨l', hl', huri, hid'⟩
      · exact ⟨l, hl, rfl, rfl⟩
      · obtain ⟨entry', hentry', hread'⟩ := source_of_mem hshows hl'
        obtain ⟨hmem', hown'⟩ := List.mem_filter.1 hentry'
        exact ⟨l', htraceable entry' hmem' hown' l' hread', huri, hid'⟩
    have hglobal := (Json.beq_str _ _).1 hbeq
    have hown := isOwn_of_globalId hl' (EntryForm.get?_of_globalIdOf hglobal)
    obtain ⟨found, -, hread⟩ := hshows.exists_of_own hentry hown
    have hsame : found.globalId = l'.globalId :=
      Json.str.inj ((EntryForm.globalIdOf_of_read hown hread).symm.trans hglobal)
    rw [leadsTo_of_read hown hread, decide_eq_true_iff]
    exact ((htraceable entry hentry hown found hread).uri_eq hl' hsame).trans huri
  · intro hleads
    have hown : isOwn entry = true := (Bool.and_eq_true_iff.1 hleads).1
    obtain ⟨found, hfound, hread⟩ := hshows.exists_of_own hentry hown
    rw [leadsTo_of_read hown hread, decide_eq_true_iff] at hleads
    exact ⟨found.globalId, mem_idsToRemove.2 (.inr ⟨found, hfound, hleads, rfl⟩),
      (Json.beq_str _ _).2 (EntryForm.globalIdOf_of_read hown hread)⟩

section Remove

variable {l : WebLink} {entries : List Json} (h : WellKept entries)
include h

theorem WellKept.without (ids : List String) : WellKept (withoutIds ids entries) :=
  ⟨h.distinct.sublist List.filter_sublist, fun entry hentry => h.describes entry (List.mem_filter.1 hentry).1⟩

variable (hl : l.Keepable)
include hl

theorem WellKept.held_remove :
    (h.without (RemoteLinks.idsToRemove l h.links)).held = h.held.dropValues fun x => x.link.uri = l.uri := by
  apply OrderedMap.ext
  show (withoutIds (RemoteLinks.idsToRemove l h.links) entries).filterMap Held.ofEntry? =
    (entries.filterMap Held.ofEntry?).filter fun held => !decide (held.2.link.uri = l.uri)
  rw [withoutIds_idsToRemove hl.addressed h.shows (traceable_of_describes h.describes), List.filterMap_filter,
    List.filter_filterMap]
  refine List.filterMap_congr fun entry _ => ?_
  cases hof : Held.ofEntry? entry with
  | none => simp
  | some held =>
    obtain ⟨hown, -, -, _, hread⟩ := Held.ofEntry?_eq_some hof
    have hleads : leadsTo l.uri entry = decide (held.2.link.uri = l.uri) :=
      leadsTo_of_read hown (by rw [hread]; rfl)
    simp [hleads, Option.filter]

/-- Entries of others stay. -/
theorem WellKept.others_remove :
    (withoutIds (RemoteLinks.idsToRemove l h.links) entries).filter (!isOwn ·) = entries.filter (!isOwn ·) := by
  rw [withoutIds_idsToRemove hl.addressed h.shows (traceable_of_describes h.describes), List.filter_filter]
  refine List.filter_congr fun entry _ => ?_
  cases hown : isOwn entry <;> simp [leadsTo, hown]

end Remove

end IssueTracker
