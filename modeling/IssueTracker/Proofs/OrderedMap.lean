import IssueTracker.Proofs.UniqueKeys
/-!
# Ordered maps

Values under keys, in an order that does not depend on the keys. What is put under a key takes
the place of the value there, and a value under a new key comes last.
-/

namespace IssueTracker

variable {κ ν : Type}

/-- Values in an order, each under a key of its own. -/
@[ext] structure OrderedMap (κ ν : Type) where
  entries : List (κ × ν)
  nodup : (entries.map Prod.fst).Nodup

namespace OrderedMap

variable [DecidableEq κ]

/-! ## Entries -/

/-- Entries with a new value under a key, made from the one there if there is one. -/
def putEntry (key : κ) (make : Option ν → ν) : List (κ × ν) → List (κ × ν)
  | [] => [(key, make none)]
  | entry :: rest =>
    if entry.1 = key then (key, make (some entry.2)) :: rest else entry :: putEntry key make rest

/-- The value under a key. -/
def valueAt? (key : κ) (entries : List (κ × ν)) : Option ν :=
  (entries.find? (·.1 = key)).map Prod.snd

variable (key : κ) (make : Option ν → ν) (entries : List (κ × ν))

/-- Putting a value leaves the keys, apart from a new one at the end. -/
theorem keys_putEntry : (putEntry key make entries).map Prod.fst =
    if key ∈ entries.map Prod.fst then entries.map Prod.fst else entries.map Prod.fst ++ [key] := by
  induction entries with
  | nil => rfl
  | cons entry rest ih =>
    unfold putEntry
    by_cases hentry : entry.1 = key
    · simp [hentry]
    · rw [if_neg hentry, List.map_cons, ih]
      by_cases hrest : key ∈ rest.map Prod.fst
      · simp [hrest]
      · have hne : key ≠ entry.1 := fun h => hentry h.symm
        simp [hrest, hne]

theorem valueAt?_putEntry_self : valueAt? key (putEntry key make entries) = some (make (valueAt? key entries)) := by
  induction entries with
  | nil => simp [putEntry, valueAt?]
  | cons entry rest ih =>
    unfold putEntry
    by_cases hentry : entry.1 = key
    · simp [hentry, valueAt?]
    · rw [if_neg hentry]
      unfold valueAt? at ih ⊢
      rw [List.find?_cons_of_neg (by simpa using hentry), List.find?_cons_of_neg (by simpa using hentry)]
      exact ih

theorem valueAt?_putEntry_ne {other : κ} (h : other ≠ key) :
    valueAt? other (putEntry key make entries) = valueAt? other entries := by
  induction entries with
  | nil => simp [putEntry, valueAt?, Ne.symm h]
  | cons entry rest ih =>
    unfold putEntry
    unfold valueAt? at ih ⊢
    by_cases hentry : entry.1 = key
    · subst hentry
      simp [Ne.symm h]
    · rw [if_neg hentry, List.find?_cons, List.find?_cons]
      split
      · rfl
      · exact ih

/-- Of two values put under a key the second stays, in the place of the first. -/
theorem putEntry_putEntry (again : Option ν → ν) :
    putEntry key again (putEntry key make entries) = putEntry key (fun v => again (some (make v))) entries := by
  induction entries with
  | nil => simp [putEntry]
  | cons entry rest ih =>
    by_cases hentry : entry.1 = key
    · simp [putEntry, hentry]
    · simp [putEntry, hentry, ih]

/-- Putting the value there changes nothing. -/
theorem putEntry_of_valueAt? {v : ν} (h : valueAt? key entries = some v) (hv : make (some v) = v) :
    putEntry key make entries = entries := by
  induction entries with
  | nil => cases h
  | cons entry rest ih =>
    unfold putEntry
    unfold valueAt? at ih h
    by_cases hentry : entry.1 = key
    · rw [if_pos hentry]
      subst hentry
      obtain rfl : entry.2 = v := by simpa using h
      rw [hv]
    · rw [if_neg hentry]
      rw [List.find?_cons_of_neg (by simpa using hentry)] at h
      rw [ih h]

/-! ## Maps -/

variable (m : OrderedMap κ ν)

/-- The keys in their order. -/
def keys : List κ := m.entries.map Prod.fst

/-- The values in their order. -/
def values : List ν := m.entries.map Prod.snd

/-- The value under a key. -/
def get? : Option ν := valueAt? key m.entries

/-- The map with a new value under a key, made from the one there if there is one. -/
def put : OrderedMap κ ν where
  entries := putEntry key make m.entries
  nodup := by
    rw [keys_putEntry]
    split
    · exact m.nodup
    · -- A new key differs from those that are there.
      rename_i h
      exact List.nodup_append.2 ⟨m.nodup, by simp, by rintro a ha b hb rfl; simp at hb; exact h (hb ▸ ha)⟩

/-- The map without the values of a kind. -/
def dropValues (p : ν → Bool) : OrderedMap κ ν where
  entries := m.entries.filter fun entry => !p entry.2
  nodup := m.nodup.sublist (List.filter_sublist.map _)

theorem keys_put : (m.put key make).keys = if key ∈ m.keys then m.keys else m.keys ++ [key] :=
  keys_putEntry key make m.entries

variable {m key} in
theorem mem_keys_of_get? {v : ν} (h : m.get? key = some v) : key ∈ m.keys := by
  obtain ⟨entry, hfind, -⟩ := Option.map_eq_some_iff.1 h
  have hkey : entry.1 = key := by simpa using List.find?_some hfind
  exact hkey ▸ List.mem_map_of_mem (List.mem_of_find?_eq_some hfind)

/-- Every value is under its key. -/
theorem get?_of_mem {entry : κ × ν} (h : entry ∈ m.entries) : m.get? entry.1 = some entry.2 := by
  rw [get?, valueAt?, UniqueKeys.find?_key Prod.fst m.nodup h]
  rfl

theorem get?_put_self : (m.put key make).get? key = some (make (m.get? key)) :=
  valueAt?_putEntry_self key make m.entries

theorem get?_put_ne {other : κ} (h : other ≠ key) : (m.put key make).get? other = m.get? other :=
  valueAt?_putEntry_ne key make m.entries h

theorem put_put (again : Option ν → ν) :
    (m.put key make).put key again = m.put key fun v => again (some (make v)) :=
  OrderedMap.ext (putEntry_putEntry key make m.entries again)

theorem put_of_get? {v : ν} (h : m.get? key = some v) (hv : make (some v) = v) : m.put key make = m :=
  OrderedMap.ext (putEntry_of_valueAt? key make m.entries h hv)

end OrderedMap

end IssueTracker
