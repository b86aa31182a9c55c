import IssueTracker.Proofs.Link.Entry
import IssueTracker.Proofs.OrderedMap
/-!
# Remote links as an ordered map

What the remote links of an issue amount to: an ordered map from ids to links, each with the
number that the tracker has given to its entry.
-/

namespace IssueTracker

/-- The number of an entry and the link it describes. -/
structure Held where
  number : Json
  link : WebLink

/-- The remote links of an issue: this library's own by their ids, the entries of others as they
are, and the number that the tracker gives out next. -/
@[ext] structure Shelf where
  held : OrderedMap String Held
  others : List Json
  nextNumber : Nat

namespace Shelf

variable (shelf : Shelf) (l : WebLink)

/-- The links in their order. -/
def links : List WebLink := shelf.held.values.map Held.link

/-- The shelf with a link, which keeps place and number of the one with its id. -/
def add : Shelf where
  others := shelf.others
  held := shelf.held.put l.globalId fun old =>
    ⟨(old.map Held.number).getD (.num (.int shelf.nextNumber)), l.stored⟩
  nextNumber := if l.globalId ∈ shelf.held.keys then shelf.nextNumber else shelf.nextNumber + 1

/-- The shelf without the links that have a link's address. -/
def remove : Shelf := { shelf with held := shelf.held.dropValues fun h => h.link.uri = l.uri }

/-- What is held is listed. -/
theorem mem_links {id : String} {x : Held} (h : shelf.held.get? id = some x) : x.link ∈ shelf.links := by
  obtain ⟨entry, hfind, rfl⟩ := Option.map_eq_some_iff.1 h
  exact List.mem_map_of_mem (List.mem_map_of_mem (List.mem_of_find?_eq_some hfind))

/-- Under its id there is the link that was added, with the number that was there. -/
theorem get?_add : (shelf.add l).held.get? l.globalId =
    some ⟨((shelf.held.get? l.globalId).map Held.number).getD (.num (.int shelf.nextNumber)), l.stored⟩ :=
  shelf.held.get?_put_self l.globalId _

/-- Under other ids nothing changes. -/
theorem get?_add_ne {id : String} (h : id ≠ l.globalId) : (shelf.add l).held.get? id = shelf.held.get? id :=
  shelf.held.get?_put_ne l.globalId _ h

theorem keys_add : (shelf.add l).held.keys =
    if l.globalId ∈ shelf.held.keys then shelf.held.keys else shelf.held.keys ++ [l.globalId] :=
  shelf.held.keys_put l.globalId _

/-- Adding a link twice is adding it once. -/
theorem add_add : (shelf.add l).add l = shelf.add l := by
  have hkey : l.globalId ∈ (shelf.add l).held.keys := by
    rw [keys_add]
    split <;> simp [*]
  apply Shelf.ext
  · exact shelf.held.put_put l.globalId _ _
  · rfl
  · exact if_pos hkey

/-- Adding a link that is there changes nothing. -/
theorem add_of_get? {number : Json} (h : shelf.held.get? l.globalId = some ⟨number, l⟩)
    (hl : l.storedId.isSome) : shelf.add l = shelf := by
  have hkey : l.globalId ∈ shelf.held.keys := OrderedMap.mem_keys_of_get? h
  apply Shelf.ext
  · apply OrderedMap.put_of_get? _ _ _ h
    rw [WebLink.stored_of_isSome hl]
    rfl
  · rfl
  · exact if_pos hkey

theorem links_remove : (shelf.remove l).links = shelf.links.filter fun link => link.uri ≠ l.uri := by
  simp [links, remove, OrderedMap.values, OrderedMap.dropValues, List.filter_map, Function.comp_def]

end Shelf

end IssueTracker
