/-!
# Tables

Values under text keys, in ascending key order. Setting a key replaces its value in place or
puts it before the first greater key.
-/

namespace IssueTracker

/-- Values under text keys. -/
abbrev Table (α : Type) := List (String × α)

namespace Table

variable {α : Type}

/-- The value under a key. -/
def get? (key : String) : Table α → Option α
  | [] => none
  | (k, v) :: rest => if key = k then some v else get? key rest

/-- The table with a value set. -/
def insert (key : String) (value : α) : Table α → Table α
  | [] => [(key, value)]
  | (k, v) :: rest =>
    if key = k then (key, value) :: rest
    else if key < k then (key, value) :: (k, v) :: rest
    else (k, v) :: insert key value rest

/-- The table of these entries; of several with one key the last wins. -/
def ofEntries (entries : List (String × α)) : Table α :=
  entries.foldl (fun table (k, v) => insert k v table) []

/-- Whether a key has a value. -/
def contains (key : String) (table : Table α) : Bool := (get? key table).isSome

@[simp] theorem get?_insert_self (key : String) (value : α) (table : Table α) :
    get? key (insert key value table) = some value := by
  induction table with
  | nil => simp [insert, get?]
  | cons entry rest ih =>
    obtain ⟨k, v⟩ := entry
    simp only [insert]
    split
    · simp [get?]
    · split
      · simp [get?]
      · simp_all [get?]

theorem get?_insert_ne {key other : String} (h : other ≠ key) (value : α) (table : Table α) :
    get? other (insert key value table) = get? other table := by
  induction table with
  | nil => simp [insert, get?, h]
  | cons entry rest ih =>
    obtain ⟨k, v⟩ := entry
    simp only [insert]
    split
    · simp_all [get?]
    · split
      · simp [get?, h]
      · simp [get?, ih]

theorem get?_insert (key other : String) (value : α) (table : Table α) :
    get? other (insert key value table) = if other = key then some value else get? other table := by
  split
  · subst other; exact get?_insert_self key value table
  · exact get?_insert_ne ‹_› value table

@[simp] theorem get?_ofEntries_nil (key : String) : get? key (ofEntries ([] : List (String × α))) = none := rfl

theorem get?_foldl_insert (key : String) (entries : List (String × α)) (table : Table α) :
    get? key (entries.foldl (fun table (k, v) => insert k v table) table) =
      (get? key (ofEntries entries)).or (get? key table) := by
  induction entries generalizing table with
  | nil => rfl
  | cons entry rest ih =>
    simp only [List.foldl_cons, ofEntries, ih (insert entry.1 entry.2 table), ih (insert entry.1 entry.2 []),
      get?_insert]
    cases get? key (ofEntries rest) <;> split <;> simp [get?]

@[simp] theorem get?_ofEntries_cons (key k : String) (v : α) (rest : List (String × α)) :
    get? key (ofEntries ((k, v) :: rest)) = (get? key (ofEntries rest)).or (if key = k then some v else none) := by
  rw [ofEntries, List.foldl_cons, get?_foldl_insert, get?_insert]
  rfl

@[simp] theorem get?_ofEntries_append (key : String) (xs ys : List (String × α)) :
    get? key (ofEntries (xs ++ ys)) = (get? key (ofEntries ys)).or (get? key (ofEntries xs)) := by
  rw [ofEntries, List.foldl_append, get?_foldl_insert]
  rfl

end Table

end IssueTracker
